import Agroasys.Treasury.Duties

namespace Agroasys.Treasury

open Agroasys.Foundation

variable {world before after : TreasuryWorld}

@[simp] theorem refresh_id (data : LedgerEntryData) (entry : LedgerEntry) : (entry.refresh data).id = entry.id := by
  unfold LedgerEntry.refresh
  split
  · rfl
  · rfl

@[simp] theorem refresh_key (data : LedgerEntryData) (entry : LedgerEntry) :
    (entry.refresh data).entryKey = entry.entryKey := by
  unfold LedgerEntry.refresh
  split
  · rename_i same
    exact same.symm
  · rfl

/-- Every event is of one entry, ids are fresh, and an entry begins in `PENDING_REVIEW`
and never returns there. -/
structure TreasuryWorld.Sound (world : TreasuryWorld) : Prop where
  fresh : ∀ entry ∈ world.entries, entry.id < world.nextEntryId
  ids : (world.entries.map (·.id)).Nodup
  keys : (world.entries.map (·.entryKey)).Nodup
  numbered : ∀ payout ∈ world.payouts, payout.id < world.nextPayoutId
  owned : ∀ payout ∈ world.payouts, ∃ entry ∈ world.entries, entry.id = payout.ledgerEntryId
  opened : ∀ entry ∈ world.entries, ∃ later initial, world.payoutsOf entry.id = later ++ [initial] ∧
    initial.state = .pendingReview ∧ ∀ payout ∈ later, payout.state ≠ .pendingReview

section Insert

variable {gap : Nat} {now entryId : Int} {state : PayoutState} {note actor : Option String}

theorem payoutsOf_insert : (world.insertPayout gap now entryId state note actor).2.payoutsOf entryId =
    (world.insertPayout gap now entryId state note actor).1 :: world.payoutsOf entryId := by
  simp [TreasuryWorld.payoutsOf, TreasuryWorld.insertPayout]

theorem payoutsOf_other (different : other ≠ entryId) :
    (world.insertPayout gap now entryId state note actor).2.payoutsOf other = world.payoutsOf other := by
  simp [TreasuryWorld.payoutsOf, TreasuryWorld.insertPayout, Ne.symm different]

/-- A state that is not the first may be added to an entry. -/
theorem TreasuryWorld.Sound.append (sound : world.Sound) (present : ∃ entry ∈ world.entries, entry.id = entryId)
    (moved : state ≠ .pendingReview) : (world.insertPayout gap now entryId state note actor).2.Sound := by
  refine ⟨sound.fresh, sound.ids, sound.keys, ?_, ?_, ?_⟩
  · intro payout member
    rcases List.mem_cons.mp member with rfl | earlier
    · exact Int.lt_succ _
    · have bound := sound.numbered payout earlier
      dsimp only [TreasuryWorld.insertPayout]
      omega
  · intro payout member
    rcases List.mem_cons.mp member with rfl | earlier
    · exact present
    · exact sound.owned payout earlier
  · intro entry member
    obtain ⟨later, initial, rows, pending, others⟩ := sound.opened entry member
    by_cases same : entry.id = entryId
    · subst same
      refine ⟨_ :: later, initial, by rw [payoutsOf_insert, rows]; rfl, pending, ?_⟩
      intro payout inside
      rcases List.mem_cons.mp inside with rfl | earlier
      · exact moved
      · exact others payout earlier
    · exact ⟨later, initial, by rw [payoutsOf_other same, rows], pending, others⟩

end Insert

section Upsert

variable {gap : Nat} {now : Int} {data : LedgerEntryData}

/-- The entry with this key takes new values. -/
def TreasuryWorld.refreshed (world : TreasuryWorld) (gap : Nat) (data : LedgerEntryData) : TreasuryWorld :=
  { world with
    entries := world.entries.map (LedgerEntry.refresh data)
    nextEntryId := world.nextEntryId + gap + 1 }

/-- A new entry, without a payout state. -/
def TreasuryWorld.listed (world : TreasuryWorld) (gap : Nat) (now : Int) (data : LedgerEntryData) : TreasuryWorld :=
  { world with
    entries := ⟨data, world.nextEntryId + gap, now⟩ :: world.entries
    nextEntryId := world.nextEntryId + gap + 1 }

/-- An entry is refreshed or opened. -/
theorem upsert_cases (sound : world.Sound) :
    (∃ entry ∈ world.entries, entry.entryKey = data.entryKey ∧
      (world.upsertWithInitialState gap now data).2 = world.refreshed gap data) ∨
    ((∀ entry ∈ world.entries, entry.entryKey ≠ data.entryKey) ∧
      (world.upsertWithInitialState gap now data).2 =
        ((world.listed gap now data).insertPayout gap now (world.nextEntryId + gap) .pendingReview
          (some "Auto-created from indexer ingestion") (some "system:indexer-ingest")).2) := by
  unfold TreasuryWorld.upsertWithInitialState TreasuryWorld.upsertEntry
  cases found : world.entries.find? (·.entryKey = data.entryKey) with
  | some entry =>
    left
    have member := List.mem_of_find?_eq_some found
    refine ⟨entry, member, by simpa using List.find?_some found, ?_⟩
    obtain ⟨later, initial, rows, _⟩ := sound.opened entry member
    have paid : initial ∈ world.payoutsOf entry.id := by simp [rows]
    obtain ⟨listed, same⟩ := List.mem_filter.mp paid
    have begun : (world.payouts.any (·.ledgerEntryId = (entry.refresh data).id)) = true := by
      rw [List.any_eq_true]
      exact ⟨initial, listed, by simpa using same⟩
    dsimp only
    rw [if_pos begun]
    rfl
  | none =>
    right
    have absent : ∀ entry ∈ world.entries, entry.entryKey ≠ data.entryKey := by simpa using found
    refine ⟨absent, ?_⟩
    have unborn : ¬ (world.payouts.any (·.ledgerEntryId = world.nextEntryId + gap)) = true := by
      rw [List.any_eq_true]
      intro taken
      obtain ⟨payout, member, same⟩ := taken
      obtain ⟨entry, listed, named⟩ := sound.owned payout member
      have bound := sound.fresh entry listed
      have reference : payout.ledgerEntryId = world.nextEntryId + gap := by simpa using same
      omega
    dsimp only
    rw [if_neg unborn]
    rfl

private theorem TreasuryWorld.Sound.refreshed (sound : world.Sound) : (world.refreshed gap data).Sound := by
  have ids : (world.refreshed gap data).entries.map (·.id) = world.entries.map (·.id) := by
    simp [TreasuryWorld.refreshed, Function.comp_def]
  have keys : (world.refreshed gap data).entries.map (·.entryKey) = world.entries.map (·.entryKey) := by
    simp [TreasuryWorld.refreshed, Function.comp_def]
  refine ⟨?_, ids ▸ sound.ids, keys ▸ sound.keys, sound.numbered, ?_, ?_⟩
  · intro entry member
    obtain ⟨old, listed, rfl⟩ := List.mem_map.mp member
    have bound := sound.fresh old listed
    rw [refresh_id]
    dsimp only [TreasuryWorld.refreshed]
    omega
  · intro payout member
    obtain ⟨entry, listed, same⟩ := sound.owned payout member
    exact ⟨entry.refresh data, List.mem_map_of_mem listed, by rw [refresh_id, same]⟩
  · intro entry member
    obtain ⟨old, listed, rfl⟩ := List.mem_map.mp member
    rw [refresh_id]
    exact sound.opened old listed

/-- A new entry gets its first state with it. -/
theorem TreasuryWorld.Sound.opening (sound : world.Sound) (absent : ∀ entry ∈ world.entries, entry.entryKey ≠ data.entryKey) :
    ((world.listed gap now data).insertPayout gap now (world.nextEntryId + gap) .pendingReview note actor).2.Sound := by
  have unowned (payout : PayoutLifecycleEvent) (member : payout ∈ world.payouts) :
      payout.ledgerEntryId ≠ world.nextEntryId + gap := by
    obtain ⟨entry, listed, same⟩ := sound.owned payout member
    have bound := sound.fresh entry listed
    omega
  refine ⟨?_, ?_, ?_, ?_, ?_, ?_⟩
  · intro entry member
    rcases List.mem_cons.mp member with rfl | earlier
    · exact Int.lt_succ _
    · have bound := sound.fresh entry earlier
      dsimp only [TreasuryWorld.insertPayout, TreasuryWorld.listed]
      omega
  · refine List.nodup_cons.mpr ⟨?_, sound.ids⟩
    intro member
    obtain ⟨entry, listed, same⟩ := List.mem_map.mp member
    have bound := sound.fresh entry listed
    dsimp only at same
    omega
  · refine List.nodup_cons.mpr ⟨?_, sound.keys⟩
    intro member
    obtain ⟨entry, listed, same⟩ := List.mem_map.mp member
    exact absent entry listed same
  · intro payout member
    rcases List.mem_cons.mp member with rfl | earlier
    · exact Int.lt_succ _
    · have bound := sound.numbered payout earlier
      dsimp only [TreasuryWorld.insertPayout, TreasuryWorld.listed]
      omega
  · intro payout member
    rcases List.mem_cons.mp member with rfl | earlier
    · exact ⟨_, List.mem_cons_self, rfl⟩
    · obtain ⟨entry, listed, same⟩ := sound.owned payout earlier
      exact ⟨entry, List.mem_cons_of_mem _ listed, same⟩
  · intro entry member
    rcases List.mem_cons.mp member with rfl | earlier
    · refine ⟨[], ((world.listed gap now data).insertPayout gap now (world.nextEntryId + gap) .pendingReview note actor).1, ?_, rfl, by simp⟩
      rw [payoutsOf_insert, TreasuryWorld.payoutsOf, List.filter_eq_nil_iff.mpr]
      · rfl
      · intro payout listed
        simpa using unowned payout listed
    · obtain ⟨later, initial, rows, pending, others⟩ := sound.opened entry earlier
      have bound := sound.fresh entry earlier
      exact ⟨later, initial, by rw [payoutsOf_other (by omega)]; exact rows, pending, others⟩

theorem TreasuryWorld.Sound.upsert (sound : world.Sound) : (world.upsertWithInitialState gap now data).2.Sound := by
  rcases upsert_cases sound with ⟨_, _, _, refreshed⟩ | ⟨absent, opened⟩
  · rw [refreshed]
    exact sound.refreshed
  · rw [opened]
    exact sound.opening absent

end Upsert

/-- What a statement may have done: nothing, or its write. -/
inductive TreasuryEffect.Writes : TreasuryEffect → TreasuryWorld → TreasuryWorld → Prop where
  | nothing : Writes effect tables tables
  | seeded : Writes .insertOffset tables { tables with nextOffset := some (tables.nextOffset.getD 0) }
  | moved : Writes (.setOffset nextOffset) tables { tables with nextOffset := some nextOffset }
  | upserted (gap : Nat) (now : Int) :
    Writes (.upsertEntry data) tables (tables.upsertWithInitialState gap now data).2
  | appended (gap : Nat) (now : Int) (present : ∃ entry ∈ tables.entries, entry.id = entryId) :
    Writes (.insertPayout entryId state note actor) tables (tables.insertPayout gap now entryId state note actor).2

/-- Every statement took effect or changed nothing. -/
theorem served_writes (served : treasuryServing.serves before event after) :
    event.effect.Writes before after := by
  obtain ⟨choice, executed⟩ := served
  obtain ⟨effect, answer⟩ := event
  dsimp only at executed ⊢
  cases effect with
  | tradeEvents limit offset =>
    rw [(Fate.executed_read executed).1]
    exact .nothing
  | selectOffset =>
    rw [(Fate.executed_read executed).1]
    exact .nothing
  | insertOffset =>
    rcases Fate.executed executed with ⟨_, done, _⟩ | ⟨same, _⟩
    · cases done
      exact .seeded
    · exact same ▸ .nothing
  | setOffset nextOffset =>
    rcases Fate.executed executed with ⟨_, done, _⟩ | ⟨same, _⟩
    · cases done
      exact .moved
    · exact same ▸ .nothing
  | upsertEntry data =>
    rcases Fate.executed executed with ⟨_, done, _⟩ | ⟨same, _⟩
    · have written : (before.upsertWithInitialState choice.gap choice.now data).2 = after :=
        congrArg Prod.snd (Except.ok.inj done)
      exact written ▸ .upserted _ _
    · exact same ▸ .nothing
  | selectEntry entryId =>
    rw [(Fate.executed_read executed).1]
    exact .nothing
  | selectLatestPayout entryId =>
    rw [(Fate.executed_read executed).1]
    exact .nothing
  | insertPayout entryId state note actor =>
    rcases Fate.executed executed with ⟨_, done, _⟩ | ⟨same, _⟩
    · unfold TreasuryWorld.appendPayout at done
      split at done
      · rename_i present
        have written : (before.insertPayout choice.gap choice.now entryId state note actor).2 = after :=
          congrArg Prod.snd (Except.ok.inj done)
        exact written ▸ .appended _ _ (by simpa using present)
      · cases done
    · exact same ▸ .nothing

/-- A call in its duty leaves the tables sound. -/
theorem TreasuryWorld.Sound.write (sound : before.Sound) (writes : effect.Writes before after)
    (permitted : Duty.permits duty effect) : after.Sound := by
  cases writes with
  | nothing => exact sound
  | seeded => exact ⟨sound.fresh, sound.ids, sound.keys, sound.numbered, sound.owned, sound.opened⟩
  | moved => exact ⟨sound.fresh, sound.ids, sound.keys, sound.numbered, sound.owned, sound.opened⟩
  | upserted gap now => exact sound.upsert
  | @appended entryId _ state _ _ gap now present =>
    apply sound.append present
    cases duty with
    | reviewing asked current =>
      obtain ⟨_, allowed⟩ := permitted
      intro pending
      subst pending
      cases current <;> simp [allowedTransitions] at allowed
    | ingesting reach pending => cases pending <;> cases permitted
    | _ => cases permitted

private theorem sound_initial (initial : (treasuryServer config).initial world) : world.Sound := by
  obtain ⟨_, entries, payouts, _⟩ := initial
  refine ⟨?_, ?_, ?_, ?_, ?_, ?_⟩ <;> simp [entries, payouts]

private theorem sound_indexed (sound : before.Sound) (indexed : before.indexes after) : after.Sound := by
  obtain ⟨event, _, rfl⟩ := indexed
  exact ⟨sound.fresh, sound.ids, sound.keys, sound.numbered, sound.owned, sound.opened⟩

/-- The tables are sound in every run. -/
theorem run_sound {config : IngestConfig} (run : (treasuryServer config).system.Run history pool) :
    pool.world.Sound := by
  apply Server.run_kept (duties_follow config) ?_ ?_ ?_ ?_ run throughout_trivial
  · intro pool initial
    exact sound_initial initial.1
  · intro history pool pid call next _ _ _ taken sound
    rw [(Server.started taken).1]
    exact sound
  · intro history pool pid event duty next acts _ sound
    exact sound.write (served_writes acts.served) acts.permitted
  · intro history pool next _ _ drifted sound
    exact sound_indexed sound drifted.1

end Agroasys.Treasury
