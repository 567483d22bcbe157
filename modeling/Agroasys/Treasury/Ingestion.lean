import Agroasys.Treasury.PayoutHistory

/-! Every fee event is ingested once: pages of a growing list, an offset that trails
what has been stored, and entries under keys of their own. -/

namespace Agroasys.Treasury

open Agroasys.Foundation

variable {world before after : TreasuryWorld} {config : IngestConfig} {history : TreasuryHistory}
  {pool next : TreasuryPool}

/-- An entry with this key is stored. -/
def TreasuryWorld.Keyed (world : TreasuryWorld) (key : String) : Prop :=
  ∃ entry ∈ world.entries, entry.entryKey = key

/-- The entries of an event are stored, but for some that are yet to come. -/
def TreasuryWorld.Processed (world : TreasuryWorld) (pending : List LedgerEntryData) (event : IndexerTradeEvent) : Prop :=
  ∀ data ∈ event.entries, world.Keyed data.entryKey ∨ data ∈ pending

/-- The entry comes from an event of the indexer. -/
def TreasuryWorld.Sourced (world : TreasuryWorld) (data : LedgerEntryData) : Prop :=
  ∃ event ∈ world.treasuryEvents, data ∈ event.entries

/-- Events and entries are only added. -/
structure TreasuryWorld.Within (before after : TreasuryWorld) : Prop where
  events : before.treasuryEvents <+: after.treasuryEvents
  keyed : ∀ key, before.Keyed key → after.Keyed key

/-- What the duty of an ingestion says of the tables. -/
def Duty.Holds (world : TreasuryWorld) : Duty → Prop
  | .ingesting reach pending => Covered (world.Processed pending) world.treasuryEvents reach ∧
      ∀ data ∈ pending, world.Sourced data
  | .ingested reach => Covered (world.Processed []) world.treasuryEvents reach
  | _ => True

section Growth

theorem TreasuryWorld.Within.processed (within : before.Within after) (processed : before.Processed pending event) :
    after.Processed pending event := by
  intro data member
  exact (processed data member).imp_left (within.keyed _)

theorem TreasuryWorld.Within.covered (within : before.Within after)
    (covered : Covered (before.Processed pending) before.treasuryEvents count) :
    Covered (after.Processed pending) after.treasuryEvents count :=
  (covered.mono fun _ processed => within.processed processed).grow within.events

theorem TreasuryWorld.Within.sourced (within : before.Within after) (sourced : before.Sourced data) :
    after.Sourced data := by
  obtain ⟨event, member, given⟩ := sourced
  exact ⟨event, within.events.subset member, given⟩

private theorem Duty.Holds.grow {duty : Duty} (holds : duty.Holds before) (within : before.Within after) :
    duty.Holds after := by
  cases duty with
  | ingesting reach pending =>
    exact ⟨within.covered holds.1, fun data member => within.sourced (holds.2 data member)⟩
  | ingested reach => exact within.covered holds
  | _ => trivial

end Growth

section Writes

private theorem keyed_refreshed : (world.refreshed gap data).Keyed key ↔ world.Keyed key := by
  unfold TreasuryWorld.Keyed TreasuryWorld.refreshed
  simp

/-- An upsert stores its key and keeps the others. -/
theorem keyed_upsert (sound : world.Sound) : (world.upsertWithInitialState gap now data).2.Keyed key ↔
    key = data.entryKey ∨ world.Keyed key := by
  rcases upsert_cases sound with ⟨entry, member, same, refreshed⟩ | ⟨_, opened⟩
  · rw [refreshed, keyed_refreshed]
    constructor
    · exact .inr
    · intro named
      rcases named with rfl | keyed
      · exact ⟨entry, member, same⟩
      · exact keyed
  · rw [opened]
    unfold TreasuryWorld.Keyed TreasuryWorld.insertPayout TreasuryWorld.listed
    simp [eq_comm]

private theorem upsert_events (sound : world.Sound) :
    (world.upsertWithInitialState gap now data).2.treasuryEvents = world.treasuryEvents := by
  rcases upsert_cases sound with ⟨_, _, _, refreshed⟩ | ⟨_, opened⟩
  · rw [refreshed]
    rfl
  · rw [opened]
    rfl

private theorem upsert_offset (sound : world.Sound) :
    (world.upsertWithInitialState gap now data).2.nextOffset = world.nextOffset := by
  rcases upsert_cases sound with ⟨_, _, _, refreshed⟩ | ⟨_, opened⟩
  · rw [refreshed]
    rfl
  · rw [opened]
    rfl

/-- The entries after an upsert are the given one and old ones. -/
theorem upsert_entries (sound : world.Sound)
    (member : entry ∈ (world.upsertWithInitialState gap now data).2.entries) :
    entry.toLedgerEntryData = data ∨ entry ∈ world.entries := by
  rcases upsert_cases sound with ⟨_, _, _, refreshed⟩ | ⟨_, opened⟩
  · rw [refreshed] at member
    obtain ⟨old, listed, rfl⟩ := List.mem_map.mp member
    unfold LedgerEntry.refresh
    split
    · exact .inl rfl
    · exact .inr listed
  · rw [opened] at member
    rcases List.mem_cons.mp member with rfl | listed
    · exact .inl rfl
    · exact .inr listed

theorem within_write (sound : before.Sound) (writes : TreasuryEffect.Writes effect before after) :
    before.Within after := by
  cases writes with
  | upserted gap now =>
    refine ⟨?_, fun key keyed => (keyed_upsert sound).mpr (.inr keyed)⟩
    rw [upsert_events sound]
  | _ => exact ⟨List.prefix_refl _, fun _ keyed => keyed⟩

private theorem within_indexed (indexed : before.indexes after) : before.Within after := by
  obtain ⟨event, _, rfl⟩ := indexed
  refine ⟨?_, fun _ keyed => keyed⟩
  unfold TreasuryWorld.treasuryEvents
  rw [List.filter_append]
  exact List.prefix_append _ _

end Writes

section Answers

private theorem offset_answer (served : treasuryServing.serves before ⟨.selectOffset, .ok nextOffset⟩ after) :
    nextOffset = before.nextOffset := by
  obtain ⟨choice, executed⟩ := served
  rcases (Fate.executed_read executed).2 with same | lost
  · exact Except.ok.inj same
  · cases lost

private theorem events_answer (served : treasuryServing.serves before ⟨.tradeEvents limit offset, .ok events⟩ after) :
    events = page limit offset before.treasuryEvents := by
  obtain ⟨choice, executed⟩ := served
  rcases (Fate.executed_read executed).2 with same | lost
  · exact Except.ok.inj same
  · cases lost

/-- An acknowledged upsert is stored. -/
theorem upsert_answer (sound : before.Sound)
    (served : treasuryServing.serves before ⟨.upsertEntry data, .ok stored⟩ after) : after.Keyed data.entryKey := by
  obtain ⟨choice, executed⟩ := served
  have written := congrArg Prod.snd (Except.ok.inj (Fate.executed_ok executed))
  dsimp only at written
  rw [← written]
  exact (keyed_upsert sound).mpr (.inl rfl)

end Answers

/-- What ingestions keep, however they interleave. -/
structure Intake (history : TreasuryHistory) (pool : TreasuryPool) : Prop where
  indexed : (pool.world.tradeEvents.map (·.id)).Nodup
  sourced : ∀ entry ∈ pool.world.entries, pool.world.Sourced entry.toLedgerEntryData
  trails : ∀ offset, pool.world.nextOffset = some offset →
    Covered (pool.world.Processed []) pool.world.treasuryEvents offset
  held : ∀ pid duty, casting treasuryDuties TreasuryCall.enter history pid = some duty → duty.Holds pool.world

section Steps

/-- A permitted write keeps the entries sourced and the offset behind them. -/
theorem intake_write (sound : before.Sound) (writes : TreasuryEffect.Writes effect before after)
    (permitted : Duty.permits duty effect) (holds : duty.Holds before)
    (sourced : ∀ entry ∈ before.entries, before.Sourced entry.toLedgerEntryData)
    (trails : ∀ offset, before.nextOffset = some offset →
      Covered (before.Processed []) before.treasuryEvents offset) :
    after.tradeEvents = before.tradeEvents ∧
      (∀ entry ∈ after.entries, after.Sourced entry.toLedgerEntryData) ∧
        ∀ offset, after.nextOffset = some offset → Covered (after.Processed []) after.treasuryEvents offset := by
  have within := within_write sound writes
  cases writes with
  | nothing => exact ⟨rfl, sourced, trails⟩
  | seeded =>
    refine ⟨rfl, sourced, ?_⟩
    intro offset stored
    cases found : before.nextOffset with
    | none =>
      rw [found] at stored
      cases stored
      exact covered_none
    | some old =>
      rw [found] at stored
      cases stored
      exact trails old found
  | @moved nextOffset =>
    refine ⟨rfl, sourced, ?_⟩
    intro offset stored
    cases stored
    cases duty with
    | ingesting reach pending =>
      cases pending with
      | nil => exact permitted ▸ holds.1
      | cons data rest => cases permitted
    | _ => cases permitted
  | @upserted data _ gap now =>
    refine ⟨?_, ?_, ?_⟩
    · rcases upsert_cases sound with ⟨_, _, _, refreshed⟩ | ⟨_, opened⟩
      · rw [refreshed]
        rfl
      · rw [opened]
        rfl
    · intro entry member
      rcases upsert_entries sound member with same | listed
      · rw [same]
        apply within.sourced
        cases duty with
        | ingesting reach pending =>
          cases pending with
          | nil => cases permitted
          | cons first rest =>
            have named : data = first := permitted
            exact holds.2 data (named ▸ List.mem_cons_self)
        | _ => cases permitted
      · exact within.sourced (sourced entry listed)
    · intro offset stored
      rw [upsert_offset sound] at stored
      exact within.covered (trails offset stored)
  | appended gap now present => exact ⟨rfl, sourced, trails⟩

/-- A page that is fetched goes on where the list was read to. -/
theorem page_fetched (within : before.Within after) (covered : Covered (before.Processed []) before.treasuryEvents offset)
    (fetched : events = page limit offset before.treasuryEvents) :
    (Duty.ingesting (offset + events.length) (events.flatMap IndexerTradeEvent.entries)).Holds after := by
  have pending : ∀ event ∈ events, ∀ data ∈ event.entries, data ∈ events.flatMap IndexerTradeEvent.entries := by
    intro event member data given
    exact List.mem_flatMap.mpr ⟨event, member, given⟩
  constructor
  · apply within.covered
    have wider : Covered (before.Processed (events.flatMap IndexerTradeEvent.entries)) before.treasuryEvents offset :=
      covered.mono fun event processed data given => .inl ((processed data given).resolve_right (by simp))
    rw [fetched] at pending wider ⊢
    exact wider.page fun event member data given => .inr (pending event member data given)
  · intro data member
    obtain ⟨event, listed, given⟩ := List.mem_flatMap.mp member
    rw [fetched] at listed
    exact within.sourced ⟨event, page_mem listed, given⟩

/-- An entry that is stored is no longer pending. -/
theorem entry_stored (within : before.Within after) (keyed : after.Keyed stored.entryKey)
    (holds : (Duty.ingesting reach (stored :: rest)).Holds before) : (Duty.ingesting reach rest).Holds after := by
  obtain ⟨covered, sourced⟩ := holds
  constructor
  · refine (within.covered covered).mono ?_
    intro event processed data given
    rcases processed data given with found | waiting
    · exact .inl found
    · rcases List.mem_cons.mp waiting with rfl | later
      · exact .inl keyed
      · exact .inr later
  · intro data member
    exact within.sourced (sourced data (List.mem_cons_of_mem _ member))

/-- A call of an ingestion that does its duty has done it. -/
theorem ingesting_done (sound : before.Sound) (served : treasuryServing.serves before event after)
    (permitted : Duty.permits (.ingesting reach pending) event.effect)
    (holds : (Duty.ingesting reach pending).Holds before) :
    (Duty.after (.ingesting reach pending) event.effect event.answer).Holds after := by
  have within := within_write sound (served_writes served)
  obtain ⟨effect, answer⟩ := event
  cases pending with
  | nil =>
    cases effect with
    | tradeEvents limit offset =>
      cases answer with
      | error => trivial
      | ok events =>
        have place : offset = reach := permitted
        subst place
        exact page_fetched within holds.1 (events_answer served)
    | setOffset nextOffset =>
      cases answer with
      | error => trivial
      | ok => exact within.covered holds.1
    | _ => cases permitted
  | cons data rest =>
    cases effect with
    | upsertEntry stored =>
      cases answer with
      | error => trivial
      | ok entry =>
        have named : stored = data := permitted
        subst named
        exact entry_stored within (upsert_answer sound served) holds
    | _ => cases permitted

/-- A call that does its duty has done it. -/
theorem duty_done (sound : before.Sound) (served : treasuryServing.serves before event after)
    (permitted : Duty.permits duty event.effect) (holds : duty.Holds before)
    (trails : ∀ offset, before.nextOffset = some offset →
      Covered (before.Processed []) before.treasuryEvents offset) :
    (duty.after event.effect event.answer).Holds after := by
  have within := within_write sound (served_writes served)
  obtain ⟨effect, answer⟩ := event
  cases duty with
  | ingesting => exact ingesting_done sound served permitted holds
  | ingested | settled => cases permitted
  | opening =>
    cases effect with
    | selectOffset =>
      cases answer with
      | error => trivial
      | ok nextOffset =>
        have read := offset_answer served
        cases nextOffset with
        | none => trivial
        | some nextOffset => exact ⟨within.covered (trails nextOffset read.symm), by simp⟩
    | _ => cases permitted
  | seeding =>
    cases effect with
    | insertOffset =>
      cases answer with
      | error => trivial
      | ok => exact ⟨covered_none, by simp⟩
    | _ => cases permitted
  | finding =>
    cases effect with
    | selectEntry entryId =>
      cases answer with
      | error => trivial
      | ok entry => cases entry <;> trivial
    | _ => cases permitted
  | found entryId =>
    cases effect with
    | selectLatestPayout asked => cases answer <;> trivial
    | _ => cases permitted
  | reviewing entryId current =>
    cases effect with
    | insertPayout => trivial
    | _ => cases permitted

private theorem holds_enter (call : TreasuryCall) : call.enter.Holds world := by
  cases call <;> trivial

/-- A run of ingestions and requests keeps its intake. -/
theorem run_intake (run : (treasuryServer config).system.Run history pool) : Intake history pool := by
  apply Server.run_kept (duties_follow config) ?_ ?_ ?_ ?_ run throughout_trivial
  · intro pool initial
    obtain ⟨⟨distinct, entries, _, offset⟩, _⟩ := initial
    refine ⟨distinct, ?_, ?_, ?_⟩
    · intro entry member
      rw [entries] at member
      cases member
    · intro stored found
      rw [found] at offset
      cases offset
      exact covered_none
    · intro pid duty assigned
      cases assigned
  · intro history pool pid call next _ _ _ taken intake
    obtain ⟨same, _⟩ := Server.started taken
    refine ⟨same ▸ intake.indexed, same ▸ intake.sourced, same ▸ intake.trails, ?_⟩
    intro other duty assigned
    rw [casting_start] at assigned
    rcases update_assigned assigned with ⟨_, rfl⟩ | ⟨_, before⟩
    · exact holds_enter call
    · exact same ▸ intake.held other duty before
  · intro history pool pid event duty next acts _ intake
    have sound := run_sound acts.run
    have writes := served_writes acts.served
    have holds := intake.held pid duty acts.assigned
    obtain ⟨events, sourced, trails⟩ := intake_write sound writes acts.permitted holds intake.sourced intake.trails
    refine ⟨events ▸ intake.indexed, sourced, trails, ?_⟩
    intro other role assigned
    rw [casting_perform acts.assigned] at assigned
    rcases update_assigned assigned with ⟨_, rfl⟩ | ⟨_, before⟩
    · exact duty_done sound acts.served acts.permitted holds intake.trails
    · exact (intake.held other role before).grow (within_write sound writes)
  · intro history pool next run _ drifted intake
    have within := within_indexed drifted.1
    obtain ⟨event, fresh, same⟩ := drifted.1
    refine ⟨?_, ?_, ?_, ?_⟩
    · rw [same, List.map_append]
      refine List.nodup_append.mpr ⟨intake.indexed, List.nodup_singleton _, ?_⟩
      intro key member other single
      obtain ⟨old, listed, rfl⟩ := List.mem_map.mp member
      cases List.mem_singleton.mp single
      exact fresh old listed
    · intro entry member
      have listed : entry ∈ pool.world.entries := by
        rw [same] at member
        exact member
      exact within.sourced (intake.sourced entry listed)
    · intro offset stored
      have kept : pool.world.nextOffset = some offset := by
        rw [same] at stored
        exact stored
      exact within.covered (intake.trails offset kept)
    · intro other duty assigned
      exact (intake.held other duty assigned).grow within

end Steps

section Paths

private theorem TreasuryWorld.Within.refl (world : TreasuryWorld) : world.Within world :=
  ⟨List.prefix_refl _, fun _ keyed => keyed⟩

private theorem TreasuryWorld.Within.trans {middle : TreasuryWorld} (first : before.Within middle)
    (second : middle.Within after) : before.Within after :=
  ⟨first.events.trans second.events, fun key keyed => second.keyed key (first.keyed key keyed)⟩

private theorem step_within (reachable : (treasuryServer config).system.Reachable pool)
    (taken : (treasuryServer config).system.step pool move next) : pool.world.Within next.world := by
  obtain ⟨history, run⟩ := reachable
  cases move with
  | start pid call =>
    rw [(Server.started taken).1]
    exact .refl _
  | perform pid event =>
    obtain ⟨_, _, served, _⟩ := taken
    exact within_write (run_sound run) (served_writes served)
  | drift => exact within_indexed taken.1

private theorem path_within (reachable : (treasuryServer config).system.Reachable pool)
    (path : Path (treasuryServer config).system pool history next) : pool.world.Within next.world := by
  refine (reachable.invariant (P := fun state => pool.world.Within state.world) path (.refl _) ?_).2
  intro state move final reached taken within
  exact within.trans (step_within reached taken)

end Paths

section Sources

/-- A key names its event and its component. -/
theorem entryKey_unique (same : buildEntryKey eventId component = buildEntryKey other kind) :
    eventId = other ∧ component = kind := by
  have chars : eventId.toList ++ ':' :: component.lowered.toList = other.toList ++ ':' :: kind.lowered.toList := by
    simpa [buildEntryKey] using congrArg String.toList same
  have kinds : component = kind := by
    have last := congrArg List.getLast? chars
    cases component <;> cases kind <;> first | rfl | simp [TreasuryComponent.lowered] at last
  subst kinds
  exact ⟨String.toList_inj.mp (List.append_inj_left' chars rfl), rfl⟩

/-- An entry has one source. -/
theorem source_unique (distinct : (world.tradeEvents.map (·.id)).Nodup) (member : event ∈ world.treasuryEvents)
    (listed : other ∈ world.treasuryEvents) (given : event.entryFor component = some data)
    (again : other.entryFor kind = some stored) (same : data.entryKey = stored.entryKey) :
    event = other ∧ component = kind ∧ data = stored := by
  obtain ⟨_, _, _, _, rfl⟩ := entryFor_eq_some.mp given
  obtain ⟨_, _, _, _, rfl⟩ := entryFor_eq_some.mp again
  obtain ⟨ids, rfl⟩ := entryKey_unique same
  have events := List.inj_on_of_nodup_map distinct (List.mem_filter.mp member).1 (List.mem_filter.mp listed).1 ids
  subst events
  exact ⟨rfl, rfl, Option.some.inj (given.symm.trans again)⟩

/-- The entry of an event for a component is stored. -/
def TreasuryWorld.Entered (world : TreasuryWorld) (event : IndexerTradeEvent) (component : TreasuryComponent) : Prop :=
  ∃ entry ∈ world.entries, event.entryFor component = some entry.toLedgerEntryData

private theorem entered_of_keyed (intake : Intake history pool) (member : event ∈ pool.world.treasuryEvents)
    (given : event.entryFor component = some data) (keyed : pool.world.Keyed data.entryKey) :
    pool.world.Entered event component := by
  obtain ⟨entry, stored, key⟩ := keyed
  obtain ⟨source, listed, found⟩ := intake.sourced entry stored
  obtain ⟨kind, again⟩ := mem_entries.mp found
  obtain ⟨rfl, rfl, rfl⟩ := source_unique intake.indexed member listed given again key.symm
  exact ⟨entry, stored, given⟩

end Sources

section Pages

/-- How far an ingestion has read. -/
def Duty.Reaches : Duty → Nat → Prop
  | .ingesting reach _, place => place ≤ reach
  | .ingested reach, place => place ≤ reach
  | .settled, _ => True
  | _, _ => False

/-- An ingestion has read as far as its pages reach. -/
theorem fetched_reaches {origin duty : Duty} {events : List (Event TreasuryEffect TreasuryAnswer)}
    {fetched : List IndexerTradeEvent} (traced : treasuryDuties.Traced origin events duty)
    (read : ⟨.tradeEvents limit offset, .ok fetched⟩ ∈ events) : duty.Reaches (offset + fetched.length) := by
  induction traced with
  | start => cases read
  | @next events duty event earlier permitted ih =>
    rcases List.mem_cons.mp read with same | before
    · subst same
      cases duty with
      | ingesting reach pending =>
        cases pending with
        | nil =>
          have place : offset = reach := permitted
          subst place
          exact Nat.le_refl _
        | cons => cases permitted
      | _ => cases permitted
    · have reaches := ih before
      obtain ⟨effect, answer⟩ := event
      cases duty with
      | ingesting reach pending =>
        cases pending with
        | nil =>
          cases effect with
          | tradeEvents =>
            cases answer with
            | error => trivial
            | ok more => exact Nat.le_add_right_of_le reaches
          | setOffset =>
            cases answer with
            | error => trivial
            | ok => exact reaches
          | _ => cases permitted
        | cons =>
          cases effect with
          | upsertEntry =>
            cases answer with
            | error => trivial
            | ok => exact reaches
          | _ => cases permitted
      | ingested => cases permitted
      | settled => cases permitted
      | _ => cases reaches

end Pages

/-- The event pays a fee that is not zero to the component. -/
def IndexerTradeEvent.Pays (event : IndexerTradeEvent) (component : TreasuryComponent) : Prop :=
  event.eventName = component.eventName ∧
    ∃ amountRaw, event.amount component = some amountRaw ∧ amountRaw ≠ "" ∧ amountRaw ≠ "0"

/-- Every event that pays a fee carries its transaction hash. -/
def TreasuryWorld.Hashed (world : TreasuryWorld) : Prop :=
  ∀ event ∈ world.treasuryEvents, ∀ component, event.Pays component →
    ∃ txHash, event.txHash = some txHash ∧ txHash ≠ ""

/-- The event is processed: what it pays, and what can be entered of it, is entered. -/
def TreasuryWorld.Ingested (world : TreasuryWorld) (event : IndexerTradeEvent) : Prop :=
  ∀ component, event.Pays component ∨ (event.entryFor component).isSome → world.Entered event component

/-- A step of an ingestion that fetches a page up to the end of the list. -/
def ReachesEnd (pid : Nat) (step : TreasuryEntry) : Prop :=
  ∃ limit offset events, step.label = .perform pid ⟨.tradeEvents limit offset, .ok events⟩ ∧
    step.before.world.treasuryEvents.length ≤ offset + events.length

section Hashed

private theorem truthy_some (present : value = some text) (nonempty : text ≠ "") : truthy value = some text := by
  subst present
  simp [truthy, nonempty]

/-- What pays a fee can be entered. -/
theorem pays_entryFor {event : IndexerTradeEvent} (pays : event.Pays component)
    (hashed : ∃ txHash, event.txHash = some txHash ∧ txHash ≠ "") : (event.entryFor component).isSome := by
  obtain ⟨named, amountRaw, amount, nonempty, _⟩ := pays
  obtain ⟨txHash, hash, filled⟩ := hashed
  have fee : event.fee component = some amountRaw := by
    rw [IndexerTradeEvent.fee, if_pos named]
    exact truthy_some amount nonempty
  rw [entryFor_eq_some.mpr ⟨amountRaw, txHash, fee, truthy_some hash filled, rfl⟩]
  rfl

private theorem ingested_of_processed (intake : Intake history pool) (hashed : pool.world.Hashed)
    (member : event ∈ pool.world.treasuryEvents) (processed : pool.world.Processed [] event) :
    pool.world.Ingested event := by
  intro component due
  have given : (event.entryFor component).isSome := by
    rcases due with pays | given
    · exact pays_entryFor pays (hashed event member component pays)
    · exact given
  obtain ⟨data, found⟩ := Option.isSome_iff_exists.mp given
  have keyed := (processed data (mem_entries.mpr ⟨component, found⟩)).resolve_right (by simp)
  exact entered_of_keyed intake member found keyed

private theorem covered_ingested (intake : Intake history pool) (hashed : pool.world.Hashed)
    (covered : Covered (pool.world.Processed []) pool.world.treasuryEvents count) :
    Covered pool.world.Ingested pool.world.treasuryEvents count := by
  refine ⟨covered.1, ?_⟩
  intro event member
  exact ingested_of_processed intake hashed (List.mem_of_mem_take member) (covered.2 event member)

/-- What a completed ingestion has read to its end is processed. -/
theorem completed_ingested (run : (treasuryServer config).system.Run history pool) (hashed : pool.world.Hashed)
    (completed : pool.running pid = some (.done (.ok (.ingested fetched inserted)))) (member : step ∈ history)
    (reached : ReachesEnd pid step) : ∀ event ∈ step.before.world.treasuryEvents, pool.world.Ingested event := by
  have intake := run_intake run
  obtain ⟨duty, assigned, ends⟩ := (Server.run_casting (duties_follow config) run).finished completed
  obtain ⟨reach, rfl⟩ := ends
  obtain ⟨limit, offset, events, label, ended⟩ := reached
  obtain ⟨call, _, traced⟩ := Server.casting_traced (duties_follow config) run assigned
  have reaches : offset + events.length ≤ reach :=
    fetched_reaches traced (made_iff.mp ⟨step, member, label⟩)
  obtain ⟨_, _, _, before, taken, after⟩ := run.cut member
  have grown := (path_within ⟨_, before⟩ ((Path.single taken).append after)).events
  exact (covered_ingested intake hashed (intake.held pid _ assigned)).all grown (ended.trans reaches)

end Hashed

/-- Where every event that pays a fee carries its hash, every entry has one event and one
component of its own and begins in review once; the offset trails the processed events;
and what a completed ingestion has read to its end is processed. -/
theorem ingestion_exactly_once {config : IngestConfig} (run : (treasuryServer config).system.Run history pool)
    (hashed : pool.world.Hashed) :
    (∀ entry ∈ pool.world.entries,
      (∃! source : IndexerTradeEvent × TreasuryComponent, source.1 ∈ pool.world.treasuryEvents ∧
        source.1.entryFor source.2 = some entry.toLedgerEntryData) ∧
      (∀ other ∈ pool.world.entries, other.toLedgerEntryData = entry.toLedgerEntryData → other = entry) ∧
      ∃ later initial, pool.world.payoutsOf entry.id = later ++ [initial] ∧ initial.state = .pendingReview ∧
        ∀ payout ∈ later, payout.state ≠ .pendingReview) ∧
    (∀ offset, pool.world.nextOffset = some offset →
      Covered pool.world.Ingested pool.world.treasuryEvents offset) ∧
    ∀ pid fetched inserted, pool.running pid = some (.done (.ok (.ingested fetched inserted))) →
      ∀ step ∈ history, ReachesEnd pid step →
        ∀ event ∈ step.before.world.treasuryEvents, pool.world.Ingested event := by
  have intake := run_intake run
  have sound := run_sound run
  refine ⟨?_, ?_, ?_⟩
  · intro entry member
    refine ⟨?_, ?_, sound.opened entry member⟩
    · obtain ⟨event, listed, found⟩ := intake.sourced entry member
      obtain ⟨component, given⟩ := mem_entries.mp found
      refine ⟨(event, component), ⟨listed, given⟩, ?_⟩
      intro other source
      obtain ⟨events, components, _⟩ := source_unique intake.indexed source.1 listed source.2 given rfl
      exact Prod.ext events components
    · intro other listed same
      have key : other.entryKey = entry.entryKey := by rw [same]
      exact List.inj_on_of_nodup_map sound.keys listed member key
  · intro offset stored
    exact covered_ingested intake hashed (intake.trails offset stored)
  · intro pid fetched inserted completed step member reached
    exact completed_ingested run hashed completed member reached

/-- A call has ended with one event taken in and one entry written. -/
def tookOne : Option (Program TreasuryEffect TreasuryAnswer (Except String TreasuryResponse)) → Bool
  | some (.done (.ok (.ingested 1 0))) => true
  | _ => false

/-- A page has come to the end of a list of one event. -/
def readsOne : Move TreasuryCall TreasuryEffect TreasuryAnswer → Bool
  | .perform 0 ⟨.tradeEvents _ offset, .ok events⟩ => decide (1 ≤ offset + events.length)
  | _ => false

/-- Two ingestions of one list, the second failing as it stores: the entry is there once. -/
theorem released_ingested_once : ∃ (history : TreasuryHistory) (pool : TreasuryPool),
    (treasuryServer smallBatches).system.Run history pool ∧ pool.world.Hashed ∧
      (∃ step ∈ history, ReachesEnd 0 step ∧ releasedEvent ∈ step.before.world.treasuryEvents) ∧
        pool.world.Ingested releasedEvent := by
  obtain ⟨recording, run, checked⟩ := (treasuryServer smallBatches).record_run treasuryServing
    (fun time => ⟨if time = 6 then .lost else .acknowledged, 0, time⟩)
    (newTreasury [releasedEvent]) [.start 0 .ingest, .go 0 2, .start 1 .ingest, .go 1 3, .go 0 2]
    (fun recording => decide (recording.pool.world.tradeEvents = [releasedEvent]) &&
      tookOne (recording.pool.running 0) && recording.history.any fun step =>
        decide (step.before.world.treasuryEvents = [releasedEvent]) && readsOne step.label)
    rfl ⟨by decide, rfl, rfl, rfl⟩ (by decide +kernel)
  simp only [Bool.and_eq_true, decide_eq_true_eq, List.any_eq_true] at checked
  obtain ⟨⟨listing, ended⟩, step, member, listed, fetched⟩ := checked
  have hashed : recording.pool.world.Hashed := by
    intro event inside component _
    have single : event ∈ recording.pool.world.tradeEvents := (List.mem_filter.mp inside).1
    rw [listing, List.mem_singleton] at single
    exact ⟨"0xtx", by rw [single]; rfl, by decide⟩
  have completed : recording.pool.running 0 = some (.done (.ok (.ingested 1 0))) := by
    unfold tookOne at ended
    split at ended
    · assumption
    · cases ended
  have reached : ReachesEnd 0 step := by
    unfold readsOne at fetched
    split at fetched
    · rename_i limit offset events label
      exact ⟨limit, offset, events, label, by rw [listed]; simpa using fetched⟩
    · cases fetched
  have event : releasedEvent ∈ step.before.world.treasuryEvents := by simp [listed]
  exact ⟨_, _, run, hashed, ⟨step, member, reached, event⟩,
    (ingestion_exactly_once run hashed).2.2 0 1 0 completed step member reached _ event⟩

/-- A platform fee of zero. -/
def zeroFeeEvent : IndexerTradeEvent :=
  { releasedEvent with
    eventName := "PlatformFeesPaidStage1"
    releasedLogisticsAmount := none
    paidPlatformFees := some "0" }

/-- A fee of zero is entered as well: its entry is of no event that pays a fee that is not zero. -/
theorem zeroFee_entered : ¬ ∀ (history : TreasuryHistory) (pool : TreasuryPool),
    (treasuryServer smallBatches).system.Run history pool → pool.world.Hashed →
      ∀ entry ∈ pool.world.entries, ∃! source : IndexerTradeEvent × TreasuryComponent,
        source.1 ∈ pool.world.treasuryEvents ∧ source.1.Pays source.2 ∧
          source.1.entryFor source.2 = some entry.toLedgerEntryData := by
  intro sources
  obtain ⟨recording, run, checked⟩ := (treasuryServer smallBatches).record_run treasuryServing smooth
    (newTreasury [zeroFeeEvent]) [.start 0 .ingest, .go 0 3]
    (fun recording => decide (recording.pool.world.tradeEvents = [zeroFeeEvent]) &&
      !recording.pool.world.entries.isEmpty) rfl ⟨by decide, rfl, rfl, rfl⟩ (by decide +kernel)
  simp only [Bool.and_eq_true, decide_eq_true_eq, Bool.not_eq_true', List.isEmpty_eq_false_iff_exists_mem] at checked
  obtain ⟨listing, entry, member⟩ := checked
  have only {event : IndexerTradeEvent} (inside : event ∈ recording.pool.world.treasuryEvents) : event = zeroFeeEvent := by
    have single : event ∈ recording.pool.world.tradeEvents := (List.mem_filter.mp inside).1
    rwa [listing, List.mem_singleton] at single
  have hashed : recording.pool.world.Hashed := by
    intro event inside component _
    exact ⟨"0xtx", by rw [only inside]; rfl, by decide⟩
  obtain ⟨⟨event, component⟩, ⟨inside, pays, _⟩, _⟩ := sources recording.history recording.pool run hashed entry member
  obtain ⟨named, amountRaw, amount, _, positive⟩ := pays
  cases only inside
  cases component with
  | logistics => exact absurd named (by decide)
  | platformFee =>
    cases amount
    exact positive rfl

end Agroasys.Treasury
