import Agroasys.Foundation.Faults
import Agroasys.Reconciliation.Attempts
import Agroasys.Reconciliation.Coverage

/-! The rows that stand under a run key, and who is executing it: what a completed run has
counted is what its rows show, as long as no failed key is executed again. -/

namespace Agroasys.Reconciliation

open Function Agroasys.Foundation

abbrev ReconcilePool := Pool ReconcileEffect ReconcileAnswer (Except String RunStats) ReconcileWorld

abbrev ReconcileHistory := History ReconcilePool (Move ReconcileCall ReconcileEffect ReconcileAnswer)

abbrev ReconcileEntry := Transition ReconcilePool (Move ReconcileCall ReconcileEffect ReconcileAnswer)

section Statements

/-- What a statement does when it takes effect. -/
def ReconcileEffect.write (world : ReconcileWorld) : ReconcileEffect → ReconcileWorld
  | .insertRun runKey mode => (world.insertRun runKey mode).2
  | .upsertRunTradeScope runId runKey tradeId => world.upsertRunTradeScope runId runKey tradeId
  | .upsertDrift runId runKey finding => world.upsertDrift runId runKey finding
  | .completeRun stats => world.completeRun stats
  | .failRun runKey message => world.failRun runKey message
  | _ => world

/-- The statement was answered by an error. -/
def refused : Event ReconcileEffect ReconcileAnswer → Prop
  | ⟨.generateRunKey _, _⟩ => False
  | ⟨.insertRun _ _, answer⟩ | ⟨.selectRun _, answer⟩ => ∃ error, answer = .error error
  | ⟨.fetchTrades _ _, answer⟩ => ∃ error, answer = .error error
  | ⟨.getTrade _, answer⟩ => ∃ error, answer = .error error
  | ⟨.notify _ _, answer⟩ => ∃ error, answer = .error error
  | ⟨.upsertRunTradeScope _ _ _, answer⟩ | ⟨.upsertDrift _ _ _, answer⟩ | ⟨.completeRun _, answer⟩
  | ⟨.failRun _ _, answer⟩ => ∃ error, answer = .error error

/-- A statement takes effect, or it changes nothing and is answered by an error. -/
theorem served_write (served : reconcileServing.serves before event after) :
    after = event.effect.write before ∨ (after = before ∧ refused event) := by
  obtain ⟨choice, executed⟩ := served
  obtain ⟨effect, answer⟩ := event
  have settled {Value : Type} {value : Value} {next : ReconcileWorld} {answer : Except String Value}
      (executed : choice.fate.execute connectionLost (.ok (value, next)) before = (answer, after)) :
      after = next ∨ (after = before ∧ ∃ error, answer = .error error) := by
    rcases Fate.executed executed with ⟨_, done, _⟩ | unchanged
    · cases done
      exact .inl rfl
    · exact .inr unchanged
  cases effect with
  | generateRunKey mode =>
    cases executed
    exact .inl rfl
  | getTrade tradeId =>
    rcases Fate.executed executed with ⟨trade, done, _⟩ | unchanged
    · cases read : before.chain.getTrade tradeId with
      | ok found =>
        rw [read] at done
        cases done
        exact .inl rfl
      | error error =>
        rw [read] at done
        cases done
    · exact .inr unchanged
  | insertRun => exact settled executed
  | selectRun => exact settled executed
  | fetchTrades => exact settled executed
  | notify => exact settled executed
  | upsertRunTradeScope => exact settled executed
  | upsertDrift => exact settled executed
  | completeRun => exact settled executed
  | failRun => exact settled executed

private theorem served_insert (served : reconcileServing.serves before ⟨.insertRun runKey mode, .ok inserted⟩ after) :
    inserted = (before.insertRun runKey mode).1 ∧ after = (before.insertRun runKey mode).2 := by
  obtain ⟨choice, executed⟩ := served
  have done := Except.ok.inj (Fate.executed_ok executed)
  exact ⟨(congrArg Prod.fst done).symm, (congrArg Prod.snd done).symm⟩

private theorem served_select (served : reconcileServing.serves before ⟨.selectRun runKey, .ok found⟩ after) :
    found = before.runs runKey := by
  obtain ⟨choice, executed⟩ := served
  exact (congrArg Prod.fst (Except.ok.inj (Fate.executed_ok executed))).symm

end Statements

/-- What stands under a run key, newest first. -/
@[ext]
structure Book where
  row : Option ReconcileRunRow
  findings : List DriftFinding
  trades : List String

def ReconcileWorld.book (world : ReconcileWorld) (runKey : String) : Book where
  row := world.runs runKey
  findings := (world.drifts.filter (·.runKey = runKey)).map (·.finding)
  trades := (world.runTrades.filter (·.runKey = runKey)).map (·.tradeId)

section Books

variable {world : ReconcileWorld} {runKey tradeId : String} {runId : Nat} {finding : DriftFinding}

private theorem book_insert (fresh : world.runs runKey = none) : (world.insertRun runKey mode).2.book =
    update world.book runKey { world.book runKey with
      row := some ⟨world.nextRunId, runKey, mode, .running, 0, 0, noCounts, none⟩ } := by
  unfold ReconcileWorld.insertRun
  rw [fresh]
  funext other
  by_cases same : other = runKey
  · subst same
    simp [ReconcileWorld.book]
  · simp [ReconcileWorld.book, same]

private theorem book_stale (stale : world.runs runKey ≠ none) : (world.insertRun runKey mode).2.book = world.book := by
  unfold ReconcileWorld.insertRun
  obtain ⟨row, present⟩ := Option.ne_none_iff_exists'.mp stale
  rw [present]
  rfl

private theorem book_drift (fresh : ∀ row ∈ world.drifts, row.clashes runKey finding = false) :
    (world.upsertDrift runId runKey finding).book =
      update world.book runKey { world.book runKey with findings := finding :: (world.book runKey).findings } := by
  have absent : world.drifts.any (DriftRow.clashes runKey finding) = false := by
    simpa using fresh
  unfold ReconcileWorld.upsertDrift
  rw [absent]
  funext other
  by_cases same : other = runKey
  · subst same
    simp [ReconcileWorld.book]
  · simp [ReconcileWorld.book, same, Ne.symm same]

private theorem book_scope (fresh : tradeId ∉ (world.book runKey).trades) :
    (world.upsertRunTradeScope runId runKey tradeId).book =
      update world.book runKey { world.book runKey with trades := tradeId :: (world.book runKey).trades } := by
  have absent : (world.runTrades.any fun row => row.runKey = runKey && row.tradeId = tradeId) = false := by
    simp only [List.any_eq_false, Bool.and_eq_true, decide_eq_true_eq, not_and]
    intro row member mine same
    exact fresh (List.mem_map.mpr ⟨row, List.mem_filter.mpr ⟨member, decide_eq_true mine⟩, same⟩)
  unfold ReconcileWorld.upsertRunTradeScope
  rw [absent]
  funext other
  by_cases same : other = runKey
  · subst same
    simp [ReconcileWorld.book]
  · simp [ReconcileWorld.book, same, Ne.symm same]

private theorem book_complete : (world.completeRun stats).book =
    update world.book stats.runKey { world.book stats.runKey with
      row := (world.runs stats.runKey).map fun row =>
        { row with
          status := stats.status
          totalTrades := stats.totalTrades
          driftCount := stats.driftCount
          severityCounts := stats.severityCounts } } := by
  funext other
  by_cases same : other = stats.runKey
  · rw [same]
    simp [ReconcileWorld.book, ReconcileWorld.completeRun]
  · simp [ReconcileWorld.book, ReconcileWorld.completeRun, same]

private theorem book_fail : (world.failRun runKey message).book =
    update world.book runKey { world.book runKey with
      row := (world.runs runKey).map fun row => { row with status := .failed, errorMessage := some message } } := by
  funext other
  by_cases same : other = runKey
  · subst same
    simp [ReconcileWorld.book, ReconcileWorld.failRun]
  · simp [ReconcileWorld.book, ReconcileWorld.failRun, same]

end Books

/-- The row has counted what stands under its key. -/
structure Book.Counts (book : Book) (row : ReconcileRunRow) : Prop where
  drifts : row.driftCount = book.findings.length
  severities : ∀ severity, row.severityCounts.of severity = book.findings.countP (·.severity = severity)
  trades : row.totalTrades = book.trades.length

structure Book.Sound (book : Book) : Prop where
  unstarted : book.row = none → book.findings = [] ∧ book.trades = []
  executed : ∀ row ∈ book.row, row.status ≠ .skipped
  counted : ∀ row ∈ book.row, row.status = .completed → book.Counts row

/-- An execution under way has written everything that stands under its key. -/
structure Book.Working (book : Book) (runId : Nat) (queue trades : List String) (past mine : List DriftFinding) :
    Prop where
  running : ∃ row, book.row = some row ∧ row.id = runId ∧ row.status = .running
  findings : book.findings = mine ++ past
  listed : book.trades = trades
  distinct : (queue ++ trades).Nodup
  current : ∀ finding ∈ mine, trades.head? = some finding.tradeId
  former : ∀ finding ∈ past, finding.tradeId ∈ trades.tail

def Attempt.Holds (books : String → Book) : Attempt → Prop
  | .working runKey runId queue trades past mine => (books runKey).Working runId queue trades past mine
  | .failing runKey => (books runKey).row ≠ none
  | _ => True

def ReconcileWorld.number (world : ReconcileWorld) (runKey : String) : Option Nat :=
  (world.runs runKey).map (·.id)

/-- Every row carries the number of its key's run, and the numbers are the keys' own. -/
structure ReconcileWorld.Filed (world : ReconcileWorld) : Prop where
  numbered : ∀ runKey runId, world.number runKey = some runId → runId < world.nextRunId
  apart : ∀ runKey other runId, world.number runKey = some runId → world.number other = some runId → runKey = other
  drifts : ∀ drift ∈ world.drifts, world.number drift.runKey = some drift.runId
  runTrades : ∀ listed ∈ world.runTrades, world.number listed.runKey = some listed.runId

/-- No two programs execute one key. -/
def Alone (cast : Nat → Option Attempt) : Prop :=
  ∀ pid other attempt rival runKey, cast pid = some attempt → cast other = some rival →
    attempt.runKey = some runKey → rival.runKey = some runKey → pid = other

/-- The invariant: sound books, at most one execution of a key, and each execution's own
book as it left it. -/
structure Booked (cast : Nat → Option Attempt) (world : ReconcileWorld) : Prop where
  sound : ∀ runKey, (world.book runKey).Sound
  holds : ∀ pid attempt, cast pid = some attempt → attempt.Holds world.book
  alone : Alone cast
  filed : world.Filed

section Steps

variable {cast : Nat → Option Attempt} {world after : ReconcileWorld} {attempt next : Attempt}

private theorem Attempt.Holds.frame (holds : attempt.Holds books)
    (same : ∀ runKey, attempt.runKey = some runKey → others runKey = books runKey) : attempt.Holds others := by
  cases attempt with
  | working runKey runId queue trades past mine =>
    change (others runKey).Working runId queue trades past mine
    rw [same runKey rfl]
    exact holds
  | failing runKey =>
    change (others runKey).row ≠ none
    rw [same runKey rfl]
    exact holds
  | _ => trivial

/-- The number moves on and the books stay. -/
theorem Booked.rest (booked : Booked cast world) (same : after.book = world.book) (filed : after.Filed) :
    Booked cast after where
  sound := same ▸ booked.sound
  holds := same ▸ booked.holds
  alone := booked.alone
  filed := filed

private theorem Alone.turn (alone : Alone cast) (owned : ∀ runKey other rival, next.runKey = some runKey → other ≠ pid →
    cast other = some rival → rival.runKey ≠ some runKey) : Alone (update cast pid (some next)) := by
  intro first second attempt rival runKey assigned opposed mine yours
  rcases update_assigned assigned with ⟨rfl, rfl⟩ | ⟨different, playing⟩
  · rcases update_assigned opposed with ⟨rfl, rfl⟩ | ⟨different, opposing⟩
    · rfl
    · exact absurd yours (owned runKey second rival mine different opposing)
  · rcases update_assigned opposed with ⟨rfl, rfl⟩ | ⟨_, opposing⟩
    · exact absurd mine (owned runKey first attempt yours different playing)
    · exact alone first second attempt rival runKey playing opposing mine yours

/-- A program takes another role. -/
theorem Booked.turn (booked : Booked cast world) (holds : next.Holds world.book)
    (owned : ∀ runKey other rival, next.runKey = some runKey → other ≠ pid → cast other = some rival →
      rival.runKey ≠ some runKey) : Booked (update cast pid (some next)) world where
  sound := booked.sound
  holds := by
    intro other role assigned
    rcases update_assigned assigned with ⟨rfl, rfl⟩ | ⟨_, playing⟩
    · exact holds
    · exact booked.holds other role playing
  alone := booked.alone.turn owned
  filed := booked.filed

/-- A program writes to the book of a key that no other program executes. -/
theorem Booked.write (booked : Booked cast world) (written : after.book = update world.book runKey book)
    (filed : after.Filed) (sound : book.Sound) (holds : next.Holds after.book)
    (mine : next.runKey = none ∨ next.runKey = some runKey)
    (foreign : ∀ other rival, other ≠ pid → cast other = some rival → rival.runKey ≠ some runKey) :
    Booked (update cast pid (some next)) after where
  sound := by
    intro key
    rw [written]
    by_cases same : key = runKey
    · subst same
      rwa [update_self]
    · rw [update_of_ne same]
      exact booked.sound key
  holds := by
    intro other role assigned
    rcases update_assigned assigned with ⟨rfl, rfl⟩ | ⟨different, playing⟩
    · exact holds
    · apply (booked.holds other role playing).frame
      intro key executed
      rw [written]
      apply update_of_ne
      intro same
      exact foreign other role different playing (same ▸ executed)
  alone := by
    apply booked.alone.turn
    intro key other rival executed different playing
    rcases mine with idle | executing
    · cases idle.symm.trans executed
    · cases executing.symm.trans executed
      exact foreign other rival different playing
  filed := filed

end Steps

section Files

variable {world : ReconcileWorld} {runKey tradeId : String} {runId : Nat} {finding : DriftFinding}

private theorem ReconcileWorld.Filed.insert (filed : world.Filed) : (world.insertRun runKey mode).2.Filed := by
  cases present : world.runs runKey with
  | some row =>
    have stale : (world.insertRun runKey mode).2 = { world with nextRunId := world.nextRunId + 1 } := by
      unfold ReconcileWorld.insertRun
      rw [present]
    rw [stale]
    refine ⟨?_, filed.apart, filed.drifts, filed.runTrades⟩
    intro key number numbered
    exact Nat.lt_succ_of_lt (filed.numbered key number numbered)
  | none =>
    have vacant : world.number runKey = none := by
      unfold ReconcileWorld.number
      rw [present]
      rfl
    have numbers : (world.insertRun runKey mode).2.number =
        update world.number runKey (some world.nextRunId) := by
      unfold ReconcileWorld.insertRun
      rw [present]
      funext key
      by_cases same : key = runKey
      · subst same
        simp [ReconcileWorld.number]
      · simp [ReconcileWorld.number, same]
    have further : (world.insertRun runKey mode).2.nextRunId = world.nextRunId + 1 ∧
        (world.insertRun runKey mode).2.drifts = world.drifts ∧
        (world.insertRun runKey mode).2.runTrades = world.runTrades := by
      unfold ReconcileWorld.insertRun
      rw [present]
      exact ⟨rfl, rfl, rfl⟩
    obtain ⟨following, drifts, runTrades⟩ := further
    have older {key : String} {number : Nat} (numbered : world.number key = some number) :
        update world.number runKey (some world.nextRunId) key = some number := by
      rw [update_of_ne, numbered]
      intro same
      rw [same, vacant] at numbered
      cases numbered
    refine ⟨?_, ?_, ?_, ?_⟩
    · intro key number numbered
      rw [numbers] at numbered
      rw [following]
      rcases update_assigned numbered with ⟨_, rfl⟩ | ⟨_, old⟩
      · exact Nat.lt_succ_self _
      · exact Nat.lt_succ_of_lt (filed.numbered key number old)
    · intro key other number numbered again
      rw [numbers] at numbered again
      rcases update_assigned numbered with ⟨rfl, rfl⟩ | ⟨_, old⟩
      · rcases update_assigned again with ⟨rfl, _⟩ | ⟨_, old⟩
        · rfl
        · exact absurd (filed.numbered other _ old) (Nat.lt_irrefl _)
      · rcases update_assigned again with ⟨rfl, rfl⟩ | ⟨_, older⟩
        · exact absurd (filed.numbered key _ old) (Nat.lt_irrefl _)
        · exact filed.apart key other number old older
    · intro drift member
      rw [numbers]
      exact older (filed.drifts drift (drifts ▸ member))
    · intro listed member
      rw [numbers]
      exact older (filed.runTrades listed (runTrades ▸ member))

private theorem ReconcileWorld.Filed.drift (filed : world.Filed) (numbered : world.number runKey = some runId) :
    (world.upsertDrift runId runKey finding).Filed := by
  unfold ReconcileWorld.upsertDrift
  split
  · refine ⟨filed.numbered, filed.apart, ?_, filed.runTrades⟩
    intro drift member
    obtain ⟨old, listed, rfl⟩ := List.mem_map.mp member
    split
    · exact numbered
    · exact filed.drifts old listed
  · refine ⟨filed.numbered, filed.apart, ?_, filed.runTrades⟩
    intro drift member
    rcases List.mem_cons.mp member with rfl | listed
    · exact numbered
    · exact filed.drifts drift listed

private theorem ReconcileWorld.Filed.scope (filed : world.Filed) (numbered : world.number runKey = some runId) :
    (world.upsertRunTradeScope runId runKey tradeId).Filed := by
  unfold ReconcileWorld.upsertRunTradeScope
  split
  · exact filed
  · refine ⟨filed.numbered, filed.apart, filed.drifts, ?_⟩
    intro listed member
    rcases List.mem_cons.mp member with rfl | before
    · exact numbered
    · exact filed.runTrades listed before

/-- A row that changes keeps its number. -/
theorem ReconcileWorld.Filed.amend (filed : world.Filed) {change : ReconcileRunRow → ReconcileRunRow}
    (same : ∀ row, (change row).id = row.id) :
    ReconcileWorld.Filed { world with runs := update world.runs runKey ((world.runs runKey).map change) } := by
  have numbers : ReconcileWorld.number { world with
      runs := update world.runs runKey ((world.runs runKey).map change) } = world.number := by
    funext key
    by_cases mine : key = runKey
    · subst mine
      simp [ReconcileWorld.number, Function.comp_def, same]
    · simp [ReconcileWorld.number, mine]
  refine ⟨?_, ?_, ?_, ?_⟩
  · rw [numbers]
    exact filed.numbered
  · rw [numbers]
    exact filed.apart
  · rw [numbers]
    exact filed.drifts
  · rw [numbers]
    exact filed.runTrades

end Files

section Executions

variable {cast : Nat → Option Attempt} {world : ReconcileWorld} {pid runId : Nat} {runKey : String}
  {queue trades : List String} {past mine : List DriftFinding}

/-- The key of an execution is nobody else's. -/
theorem Booked.foreign (booked : Booked cast world) (assigned : cast pid = some attempt)
    (executed : attempt.runKey = some runKey) :
    ∀ other rival, other ≠ pid → cast other = some rival → rival.runKey ≠ some runKey := by
  intro other rival different playing same
  exact different (booked.alone other pid rival attempt runKey playing assigned same executed)

private theorem Booked.stay (booked : Booked cast world) (assigned : cast pid = some attempt) :
    Booked (update cast pid (some attempt)) world := by
  rw [← assigned, update_eq_self]
  exact booked

/-- A program that executes no key can be in any state of the books. -/
theorem Booked.idle (booked : Booked cast world) (idle : next.runKey = none) :
    Booked (update cast pid (some next)) world := by
  apply booked.turn
  · cases next with
    | working => cases idle
    | failing => cases idle
    | _ => trivial
  · intro key other rival executed
    cases idle.symm.trans executed

theorem Booked.working (booked : Booked cast world)
    (assigned : cast pid = some (.working runKey runId queue trades past mine)) :
    (world.book runKey).Working runId queue trades past mine :=
  booked.holds pid _ assigned

private theorem Booked.number (booked : Booked cast world)
    (assigned : cast pid = some (.working runKey runId queue trades past mine)) :
    world.number runKey = some runId := by
  obtain ⟨row, present, rfl, _⟩ := (booked.working assigned).running
  exact Option.map_eq_some_iff.mpr ⟨row, present, rfl⟩

/-- An execution goes on to fail its run. -/
theorem Booked.abort (booked : Booked cast world)
    (assigned : cast pid = some (.working runKey runId queue trades past mine)) :
    Booked (update cast pid (some (.failing runKey))) world := by
  obtain ⟨row, present, _, _⟩ := (booked.working assigned).running
  apply booked.turn
  · change (world.book runKey).row ≠ none
    rw [present]
    exact Option.some_ne_none row
  · intro key other rival executed
    cases executed
    exact booked.foreign assigned rfl other rival

/-- A key that had no row is executed from an empty book. -/
theorem Booked.enter (booked : Booked cast world) (fresh : world.runs runKey = none) :
    Booked (update cast pid (some (.working runKey world.nextRunId [] [] [] []))) (world.insertRun runKey mode).2 := by
  obtain ⟨noFindings, noTrades⟩ := (booked.sound runKey).unstarted fresh
  apply booked.write (book_insert fresh) booked.filed.insert
  · refine ⟨?_, ?_, ?_⟩
    · intro absent
      cases absent
    · intro row member
      cases member
      exact nofun
    · intro row member completed
      cases member
      cases completed
  · change ((world.insertRun runKey mode).2.book runKey).Working _ _ _ _ _
    rw [book_insert fresh, update_self]
    exact ⟨⟨_, rfl, rfl, rfl⟩, noFindings, noTrades, List.nodup_nil, List.forall_mem_nil _, List.forall_mem_nil _⟩
  · exact .inr rfl
  · intro other rival _ playing executed
    have holds := booked.holds other rival playing
    cases rival with
    | working key =>
      cases executed
      obtain ⟨row, present, _⟩ := holds.running
      cases fresh.symm.trans present
    | failing key =>
      cases executed
      exact holds fresh
    | _ => cases executed

/-- The insertion of a row that nobody goes on to execute. -/
theorem Booked.insert (booked : Booked cast world) (idle : next.runKey = none) :
    Booked (update cast pid (some next)) (world.insertRun runKey mode).2 := by
  cases present : world.runs runKey with
  | none =>
    have left : Booked (update (update cast pid _) pid (some next)) (world.insertRun runKey mode).2 :=
      (booked.enter present).idle idle
    rwa [update_idem] at left
  | some row =>
    have stale : world.runs runKey ≠ none := by
      rw [present]
      exact Option.some_ne_none row
    exact (booked.rest (book_stale stale) booked.filed.insert).idle idle

/-- A run that is being executed is neither skipped nor completed. -/
theorem Book.Working.sound {book after : Book} (working : book.Working runId queue trades past mine)
    (same : after.row = book.row) : after.Sound := by
  obtain ⟨row, present, _, running⟩ := working.running
  rw [← same] at present
  refine ⟨?_, ?_, ?_⟩
  · intro absent
    cases absent.symm.trans present
  · intro found member
    cases Option.some.inj (present.symm.trans member)
    rw [running]
    exact nofun
  · intro found member completed
    cases Option.some.inj (present.symm.trans member)
    cases running.symm.trans completed

/-- The next trade of the page is listed. -/
theorem Booked.list (booked : Booked cast world)
    (assigned : cast pid = some (.working runKey runId (tradeId :: queue) trades past mine)) :
    Booked (update cast pid (some (.working runKey runId queue (tradeId :: trades) (mine ++ past) [])))
      (world.upsertRunTradeScope runId runKey tradeId) := by
  have working := booked.working assigned
  have fresh : tradeId ∉ (world.book runKey).trades := by
    rw [working.listed]
    exact fun member => (List.nodup_cons.mp working.distinct).1 (List.mem_append_right _ member)
  apply booked.write (book_scope fresh) (booked.filed.scope (booked.number assigned))
  · exact working.sound rfl
  · change ((world.upsertRunTradeScope runId runKey tradeId).book runKey).Working _ _ _ _ _
    rw [book_scope fresh, update_self]
    refine ⟨working.running, working.findings, ?_, ?_, List.forall_mem_nil _, ?_⟩
    · rw [working.listed]
    · exact (List.perm_middle.nodup_iff).mpr working.distinct
    · intro finding member
      rcases List.mem_append.mp member with current | former
      · exact List.mem_of_mem_head? (working.current finding current)
      · exact List.mem_of_mem_tail (working.former finding former)
  · exact .inr rfl
  · exact booked.foreign assigned rfl

/-- A finding on the last trade is recorded beside the ones before. -/
theorem Booked.find (booked : Booked cast world)
    (assigned : cast pid = some (.working runKey runId queue trades past mine))
    (current : trades.head? = some finding.tradeId) (unseen : finding.place ∉ mine.map DriftFinding.place) :
    Booked (update cast pid (some (.working runKey runId queue trades past (finding :: mine))))
      (world.upsertDrift runId runKey finding) := by
  have working := booked.working assigned
  have fresh : ∀ row ∈ world.drifts, row.clashes runKey finding = false := by
    intro row member
    rw [Bool.eq_false_iff]
    intro clashes
    simp only [DriftRow.clashes, Bool.and_eq_true, decide_eq_true_eq] at clashes
    obtain ⟨⟨key, trade⟩, place⟩ := clashes
    have listed : row.finding ∈ (world.book runKey).findings :=
      List.mem_map.mpr ⟨row, List.mem_filter.mpr ⟨member, decide_eq_true key⟩, rfl⟩
    rw [working.findings] at listed
    rcases List.mem_append.mp listed with recent | former
    · exact unseen (List.mem_map.mpr ⟨row.finding, recent, place⟩)
    · have earlier := working.former row.finding former
      have distinct := (List.nodup_append.mp working.distinct).2.1
      cases trades with
      | nil => cases current
      | cons head rest =>
        cases current
        exact (List.nodup_cons.mp distinct).1 (trade ▸ earlier)
  apply booked.write (book_drift fresh) (booked.filed.drift (booked.number assigned))
  · exact working.sound rfl
  · change ((world.upsertDrift runId runKey finding).book runKey).Working _ _ _ _ _
    rw [book_drift fresh, update_self]
    refine ⟨working.running, ?_, working.listed, working.distinct, ?_, working.former⟩
    · rw [working.findings]
      rfl
    · intro other member
      rcases List.mem_cons.mp member with rfl | recent
      · exact current
      · exact working.current other recent
  · exact .inr rfl
  · exact booked.foreign assigned rfl

/-- A run is completed with the count of what stands in its book. -/
theorem Booked.complete (booked : Booked cast world)
    (assigned : cast pid = some (.working runKey runId queue trades past mine))
    (tallies : stats.Tallies runKey trades (mine ++ past)) :
    Booked (update cast pid (some (.failing runKey))) (world.completeRun stats) := by
  have working := booked.working assigned
  obtain ⟨row, present, _⟩ := working.running
  have found : world.runs stats.runKey = some row := tallies.key ▸ present
  apply booked.write book_complete (booked.filed.amend fun _ => rfl)
  · rw [found, tallies.key]
    refine ⟨?_, ?_, ?_⟩
    · intro absent
      cases absent
    · intro other member
      cases member
      rw [tallies.status]
      exact nofun
    · intro other member completed
      cases member
      refine ⟨?_, ?_, ?_⟩
      · rw [working.findings]
        exact tallies.count
      · rw [working.findings]
        exact tallies.severities
      · rw [working.listed]
        exact tallies.total
  · change ((world.completeRun stats).book runKey).row ≠ none
    rw [book_complete, found, tallies.key, update_self]
    exact nofun
  · exact .inr (congrArg some tallies.key.symm)
  · rw [tallies.key]
    exact booked.foreign assigned rfl

private theorem Booked.fail (booked : Booked cast world) (assigned : cast pid = some (.failing runKey)) :
    Booked (update cast pid (some .closed)) (world.failRun runKey message) := by
  have present := booked.holds pid _ assigned
  obtain ⟨row, found⟩ := Option.ne_none_iff_exists'.mp present
  have known : world.runs runKey = some row := found
  apply booked.write book_fail (booked.filed.amend fun _ => rfl)
  · rw [known]
    refine ⟨?_, ?_, ?_⟩
    · intro absent
      cases absent
    · intro other member
      cases member
      exact nofun
    · intro other member completed
      cases member
      cases completed
  · trivial
  · exact .inl rfl
  · exact booked.foreign assigned rfl

end Executions

section Runs

variable {settings : ReconcileSettings} {history : ReconcileHistory} {pool next : ReconcilePool}

/-- The indexer has given a call the trade. -/
def Listed (history : ReconcileHistory) (pid : Nat) (tradeId : String) : Prop :=
  ∃ limit offset records, Made history pid ⟨.fetchTrades limit offset, .ok records⟩ ∧
    tradeId ∈ records.map (·.tradeId)

/-- No failed key is executed again, and no page repeats a trade of its run. -/
def Orderly (earlier : ReconcileHistory) (step : ReconcileEntry) : Prop :=
  (∀ pid runKey answer row, step.label = .perform pid ⟨.selectRun runKey, answer⟩ →
    step.before.world.runs runKey = some row → row.status ≠ .failed) ∧
  ∀ pid limit offset records, step.label = .perform pid ⟨.fetchTrades limit offset, .ok records⟩ →
    (records.map (·.tradeId)).Nodup ∧ ∀ tradeId ∈ records.map (·.tradeId), ¬ Listed earlier pid tradeId

/-- The trades of an execution come from its pages. -/
def Attempt.Paged (events : List (Event ReconcileEffect ReconcileAnswer)) : Attempt → Prop
  | .working _ _ queue trades _ _ => ∀ tradeId ∈ queue ++ trades, ∃ limit offset records,
      ⟨.fetchTrades limit offset, .ok records⟩ ∈ events ∧ tradeId ∈ records.map IndexedTradeRecord.tradeId
  | _ => True

private theorem traced_paged {events : List (Event ReconcileEffect ReconcileAnswer)} {attempt : Attempt}
    (traced : attempting.Traced .opening events attempt) : attempt.Paged events := by
  induction traced with
  | start => trivial
  | @next events attempt event _ permitted ih =>
    obtain ⟨effect, answer⟩ := event
    have blank (runKey : String) (runId : Nat) (event : Event ReconcileEffect ReconcileAnswer) :
        (Attempt.working runKey runId [] [] [] []).Paged (event :: events) := by
      intro tradeId member
      cases member
    cases attempt with
    | opening =>
      cases effect with
      | insertRun =>
        match answer with
        | .ok (some row) => exact blank _ _ _
        | .ok none | .error _ => trivial
      | generateRunKey => trivial
      | _ => cases permitted
    | looking runKey =>
      cases effect with
      | selectRun =>
        match answer with
        | .ok (some row) =>
          change Attempt.Paged _ (if _ then _ else _)
          split
          · trivial
          · exact blank _ _ _
        | .ok none | .error _ => trivial
      | _ => cases permitted
    | working runKey runId queue trades past mine =>
      have older : ∀ tradeId ∈ queue ++ trades, ∃ limit offset records,
          ⟨.fetchTrades limit offset, .ok records⟩ ∈ ⟨effect, answer⟩ :: events ∧
            tradeId ∈ records.map IndexedTradeRecord.tradeId := by
        intro tradeId member
        obtain ⟨limit, offset, records, made, listed⟩ := ih tradeId member
        exact ⟨limit, offset, records, List.mem_cons_of_mem _ made, listed⟩
      cases effect with
      | fetchTrades limit offset =>
        match answer with
        | .ok records =>
          intro tradeId member
          rcases List.mem_append.mp member with paged | before
          · exact ⟨limit, offset, records, List.mem_cons_self, paged⟩
          · exact older tradeId (List.mem_append_right _ before)
        | .error _ => trivial
      | upsertRunTradeScope number asked listed =>
        match answer with
        | .ok _ =>
          intro tradeId member
          apply older
          rcases List.mem_append.mp member with after | before
          · exact List.mem_append_left _ (List.mem_of_mem_tail after)
          · rcases List.mem_cons.mp before with rfl | before
            · exact List.mem_append_left _ (List.mem_of_mem_head? permitted.2.2)
            · exact List.mem_append_right _ before
        | .error _ => trivial
      | getTrade => exact older
      | upsertDrift =>
        match answer with
        | .ok _ => exact older
        | .error _ => trivial
      | notify =>
        match answer with
        | .ok _ => exact older
        | .error _ => trivial
      | completeRun =>
        match answer with
        | .ok _ | .error _ => trivial
      | failRun => trivial
      | _ => cases permitted
    | failing runKey =>
      cases effect with
      | failRun => trivial
      | _ => cases permitted
    | closed => cases permitted

private theorem Booked.opening (booked : Booked (casting attempting (fun _ => .opening) history) pool.world)
    (served : reconcileServing.serves pool.world event next.world) (permitted : Attempt.permits .opening event.effect) :
    Booked (update (casting attempting (fun _ => .opening) history) pid
      (some (attempting.after .opening event.effect event.answer))) next.world := by
  have written := served_write served
  obtain ⟨effect, answer⟩ := event
  cases effect with
  | generateRunKey =>
    rcases written with same | ⟨_, absurdly⟩
    · rw [same]
      exact booked.idle rfl
    · cases absurdly
  | insertRun runKey mode =>
    match answer with
    | .ok (some row) =>
      obtain ⟨inserted, same⟩ := served_insert served
      rw [same]
      cases fresh : pool.world.runs runKey with
      | some old =>
        rw [ReconcileWorld.insertRun, fresh] at inserted
        cases inserted
      | none =>
        have entered : Booked (update (casting attempting (fun _ => .opening) history) pid _)
            (pool.world.insertRun runKey mode).2 := booked.enter fresh
        rw [ReconcileWorld.insertRun, fresh] at inserted
        cases inserted
        exact entered
    | .ok none =>
      obtain ⟨_, same⟩ := served_insert served
      rw [same]
      exact booked.insert rfl
    | .error _ =>
      rcases written with same | ⟨same, _⟩
      · rw [same]
        exact booked.insert rfl
      · rw [same]
        exact booked.idle rfl
  | _ => cases permitted

/-- A page that is fetched holds trades that the execution has not listed yet. -/
theorem Booked.fetched (booked : Booked (casting attempting (fun _ => .opening) history) pool.world)
    (acts : (reconcileServer settings).Acts attempting (fun _ => .opening) history pool pid
      ⟨.fetchTrades limit offset, answer⟩ (.working runKey runId queue trades past mine) next)
    (orderly : Orderly history ⟨pool, .perform pid ⟨.fetchTrades limit offset, answer⟩, next⟩) :
    Booked (update (casting attempting (fun _ => .opening) history) pid
      (some (attempting.after (.working runKey runId queue trades past mine)
        (.fetchTrades limit offset) answer))) next.world := by
  have written := served_write acts.served
  have assigned := acts.assigned
  obtain ⟨call, _, traced⟩ := Server.casting_traced (attempts_follow settings) acts.run assigned
  have same : next.world = pool.world := written.elim id And.left
  rw [same]
  match answer with
  | .ok records =>
    obtain ⟨distinct, unlisted⟩ := orderly.2 pid limit offset records rfl
    have working := booked.working assigned
    apply booked.turn
    · change (pool.world.book runKey).Working _ _ _ _ _
      refine ⟨working.running, working.findings, working.listed, ?_, working.current, working.former⟩
      refine List.nodup_append.mpr ⟨distinct, (List.nodup_append.mp working.distinct).2.1, ?_⟩
      intro tradeId member other listed same
      obtain ⟨limit, offset, earlier, made, before⟩ :=
        traced_paged traced other (List.mem_append_right _ listed)
      exact unlisted tradeId member ⟨limit, offset, earlier, made_iff.mpr made, same ▸ before⟩
    · intro key other rival executed
      cases executed
      exact booked.foreign assigned rfl other rival
  | .error _ => exact booked.abort assigned

theorem Booked.scoped (booked : Booked (casting attempting (fun _ => .opening) history) pool.world)
    (acts : (reconcileServer settings).Acts attempting (fun _ => .opening) history pool pid
      ⟨.upsertRunTradeScope rowId asked tradeId, answer⟩ (.working runKey runId queue trades past mine) next) :
    Booked (update (casting attempting (fun _ => .opening) history) pid
      (some (attempting.after (.working runKey runId queue trades past mine)
        (.upsertRunTradeScope rowId asked tradeId) answer))) next.world := by
  have written := served_write acts.served
  have assigned := acts.assigned
  obtain ⟨rfl, rfl, head⟩ := acts.permitted
  cases queue with
  | nil => cases head
  | cons first rest =>
    cases head
    match answer with
    | .ok _ =>
      rcases written with same | ⟨_, _, absurdly⟩
      · rw [same]
        exact booked.list assigned
      · cases absurdly
    | .error _ =>
      rcases written with same | ⟨same, _⟩
      · rw [same]
        have lost := (booked.list assigned).abort (update_self pid _ _)
        rwa [update_idem] at lost
      · rw [same]
        exact booked.abort assigned

theorem Booked.drifted (booked : Booked (casting attempting (fun _ => .opening) history) pool.world)
    (acts : (reconcileServer settings).Acts attempting (fun _ => .opening) history pool pid
      ⟨.upsertDrift rowId asked finding, answer⟩ (.working runKey runId queue trades past mine) next) :
    Booked (update (casting attempting (fun _ => .opening) history) pid
      (some (attempting.after (.working runKey runId queue trades past mine)
        (.upsertDrift rowId asked finding) answer))) next.world := by
  have written := served_write acts.served
  have assigned := acts.assigned
  obtain ⟨rfl, rfl, current, unseen⟩ := acts.permitted
  match answer with
  | .ok _ =>
    rcases written with same | ⟨_, _, absurdly⟩
    · rw [same]
      exact booked.find assigned current unseen
    · cases absurdly
  | .error _ =>
    rcases written with same | ⟨same, _⟩
    · rw [same]
      have lost := (booked.find assigned current unseen).abort (update_self pid _ _)
      rwa [update_idem] at lost
    · rw [same]
      exact booked.abort assigned

theorem Booked.completed (booked : Booked (casting attempting (fun _ => .opening) history) pool.world)
    (acts : (reconcileServer settings).Acts attempting (fun _ => .opening) history pool pid
      ⟨.completeRun stats, answer⟩ (.working runKey runId queue trades past mine) next) :
    Booked (update (casting attempting (fun _ => .opening) history) pid
      (some (attempting.after (.working runKey runId queue trades past mine)
        (.completeRun stats) answer))) next.world := by
  have written := served_write acts.served
  have assigned := acts.assigned
  obtain ⟨_, tallies⟩ := acts.permitted
  match answer with
  | .ok _ =>
    rcases written with same | ⟨_, _, absurdly⟩
    · rw [same]
      have left : Booked (update _ pid (some .closed)) (pool.world.completeRun stats) :=
        (booked.complete assigned tallies).idle rfl
      rwa [update_idem] at left
    · cases absurdly
  | .error _ =>
    rcases written with same | ⟨same, _⟩
    · rw [same]
      exact booked.complete assigned tallies
    · rw [same]
      exact booked.abort assigned

theorem Booked.failed (booked : Booked (casting attempting (fun _ => .opening) history) pool.world)
    (acts : (reconcileServer settings).Acts attempting (fun _ => .opening) history pool pid
      ⟨.failRun asked message, answer⟩ (.working runKey runId queue trades past mine) next) :
    Booked (update (casting attempting (fun _ => .opening) history) pid
      (some (attempting.after (.working runKey runId queue trades past mine)
        (.failRun asked message) answer))) next.world := by
  have written := served_write acts.served
  have assigned := acts.assigned
  cases acts.permitted
  rcases written with same | ⟨same, _⟩
  · rw [same]
    have left : Booked _ (pool.world.failRun asked message) := (booked.abort assigned).fail (update_self pid _ _)
    rwa [update_idem] at left
  · rw [same]
    exact booked.idle rfl

private theorem Booked.executing (booked : Booked (casting attempting (fun _ => .opening) history) pool.world)
    (acts : (reconcileServer settings).Acts attempting (fun _ => .opening) history pool pid event
      (.working runKey runId queue trades past mine) next)
    (orderly : Orderly history ⟨pool, .perform pid event, next⟩) :
    Booked (update (casting attempting (fun _ => .opening) history) pid
      (some (attempting.after (.working runKey runId queue trades past mine) event.effect event.answer))) next.world := by
  have written := served_write acts.served
  have assigned := acts.assigned
  obtain ⟨effect, answer⟩ := event
  cases effect with
  | fetchTrades => exact booked.fetched acts orderly
  | upsertRunTradeScope => exact booked.scoped acts
  | upsertDrift => exact booked.drifted acts
  | completeRun => exact booked.completed acts
  | failRun => exact booked.failed acts
  | getTrade tradeId =>
    have same : next.world = pool.world := written.elim id And.left
    rw [same]
    exact booked.stay assigned
  | notify asked finding =>
    have same : next.world = pool.world := written.elim id And.left
    rw [same]
    match answer with
    | .ok _ => exact booked.stay assigned
    | .error _ => exact booked.abort assigned
  | _ => cases acts.permitted

/-- The answers of a call keep the books. -/
theorem Booked.answered (booked : Booked (casting attempting (fun _ => .opening) history) pool.world)
    (acts : (reconcileServer settings).Acts attempting (fun _ => .opening) history pool pid event attempt next)
    (orderly : Orderly history ⟨pool, .perform pid event, next⟩) :
    Booked (update (casting attempting (fun _ => .opening) history) pid
      (some (attempting.after attempt event.effect event.answer))) next.world := by
  have served := acts.served
  have written := served_write served
  have assigned := acts.assigned
  have permitted := acts.permitted
  cases attempt with
  | opening => exact booked.opening served permitted
  | looking runKey =>
    obtain ⟨effect, answer⟩ := event
    cases effect with
    | selectRun asked =>
      cases permitted
      have same : next.world = pool.world := written.elim id And.left
      rw [same]
      match answer with
      | .ok (some row) =>
        have found := (served_select served).symm
        have executed : row.status = .completed ∨ row.status = .running := by
          have stored := (booked.sound runKey).executed row found
          have unfailed := orderly.1 pid runKey _ row rfl found
          cases status : row.status with
          | running => exact .inr rfl
          | completed => exact .inl rfl
          | failed => exact absurd status unfailed
          | skipped => exact absurd status stored
        have ended : attempting.after (.looking runKey) (.selectRun runKey) (.ok (some row)) = .closed :=
          if_pos executed
        exact ended ▸ booked.idle rfl
      | .ok none | .error _ => exact booked.idle rfl
    | _ => cases permitted
  | working => exact booked.executing acts orderly
  | failing runKey =>
    obtain ⟨effect, answer⟩ := event
    cases effect with
    | failRun asked message =>
      cases permitted
      rcases written with same | ⟨same, _⟩
      · rw [same]
        exact booked.fail assigned
      · rw [same]
        exact booked.idle rfl
    | _ => cases permitted
  | closed => cases permitted

theorem booked_initial {world : ReconcileWorld} (runs : ∀ runKey, world.runs runKey = none) (drifts : world.drifts = [])
    (runTrades : world.runTrades = []) : Booked (fun _ => none) world where
  sound := by
    intro runKey
    unfold ReconcileWorld.book
    rw [runs, drifts, runTrades]
    exact ⟨fun _ => ⟨rfl, rfl⟩, nofun, nofun⟩
  holds := nofun
  alone := nofun
  filed := by
    have blank (runKey : String) : world.number runKey = none := by
      unfold ReconcileWorld.number
      rw [runs]
      rfl
    refine ⟨?_, ?_, ?_, ?_⟩
    · intro runKey runId numbered
      cases (blank runKey).symm.trans numbered
    · intro runKey other runId numbered
      cases (blank runKey).symm.trans numbered
    · rw [drifts]
      exact List.forall_mem_nil _
    · rw [runTrades]
      exact List.forall_mem_nil _

/-- The books are kept throughout an orderly run. -/
theorem run_booked (run : (reconcileServer settings).system.Run history pool) (orderly : Throughout Orderly history) :
    Booked (casting attempting (fun _ => .opening) history) pool.world := by
  apply Server.run_kept (attempts_follow settings) ?_ ?_ ?_ ?_ run orderly
  · intro pool initial
    obtain ⟨runs, drifts, runTrades⟩ := initial.1
    exact booked_initial runs drifts runTrades
  · intro history pool pid call next _ _ _ taken booked
    rw [casting_start, (Server.started taken).1]
    exact booked.idle rfl
  · intro history pool pid event attempt next acts granted booked
    rw [casting_perform acts.assigned]
    exact booked.answered acts granted
  · intro history pool next _ _ drifted booked
    rw [casting_drift]
    obtain ⟨_, _, moved⟩ := drifted.1
    rw [moved]
    exact booked.rest rfl ⟨booked.filed.numbered, booked.filed.apart, booked.filed.drifts, booked.filed.runTrades⟩

end Runs

section Recorded

variable {cast : Nat → Option Attempt} {world : ReconcileWorld} {runKey key : String} {runId owner : Nat}

/-- The drift rows under a key, and the trades listed under it. -/
def ReconcileWorld.driftsOf (world : ReconcileWorld) (runKey : String) : List DriftRow :=
  world.drifts.filter (·.runKey = runKey)

def ReconcileWorld.tradesOf (world : ReconcileWorld) (runKey : String) : List RunTradeRow :=
  world.runTrades.filter (·.runKey = runKey)

/-- A run's counts are those of the rows stored for its key, which are those with its id. -/
structure ReconcileRunRow.Accurate (row : ReconcileRunRow) (runKey : String) (world : ReconcileWorld) : Prop where
  drifts : row.driftCount = (world.driftsOf runKey).length
  severities : ∀ severity, row.severityCounts.of severity =
    (world.driftsOf runKey).countP (·.finding.severity = severity)
  trades : row.totalTrades = (world.tradesOf runKey).length
  driftIds : world.drifts.filter (·.runId = row.id) = world.driftsOf runKey
  tradeIds : world.runTrades.filter (·.runId = row.id) = world.tradesOf runKey

private theorem ReconcileWorld.Filed.mine (filed : world.Filed) (numbered : world.number runKey = some runId)
    (same : world.number key = some owner) : owner = runId ↔ key = runKey := by
  constructor
  · rintro rfl
    exact filed.apart key runKey owner same numbered
  · rintro rfl
    exact Option.some.inj (same.symm.trans numbered)

/-- What stands under a key is what is stored for its run. -/
theorem Booked.accurate (booked : Booked cast world) (present : world.runs runKey = some row)
    (completed : row.status = .completed) : row.Accurate runKey world := by
  have numbered : world.number runKey = some row.id := by
    unfold ReconcileWorld.number
    rw [present]
    rfl
  obtain ⟨count, severities, trades⟩ := (booked.sound runKey).counted row present completed
  refine ⟨?_, ?_, ?_, ?_, ?_⟩
  · rw [count]
    exact List.length_map ..
  · intro severity
    rw [severities]
    exact List.countP_map ..
  · rw [trades]
    exact List.length_map ..
  · apply List.filter_congr
    intro drift member
    rw [decide_eq_decide]
    exact booked.filed.mine numbered (booked.filed.drifts drift member)
  · apply List.filter_congr
    intro listed member
    rw [decide_eq_decide]
    exact booked.filed.mine numbered (booked.filed.runTrades listed member)

end Recorded

section Claims

variable {settings : ReconcileSettings} {history : ReconcileHistory} {pool : ReconcilePool}

/-- A call went past the checks on a key's row, and has not returned. -/
def Working (history : ReconcileHistory) (pool : ReconcilePool) (pid : Nat) (runKey : String) : Prop :=
  pool.Live pid ∧
    ((∃ mode row, Made history pid ⟨.insertRun runKey mode, .ok (some row)⟩) ∨
      ∃ row, Made history pid ⟨.selectRun runKey, .ok (some row)⟩ ∧ row.status ≠ .completed ∧ row.status ≠ .running)

/-- The answers that let a call execute a key. -/
def Enters (runKey : String) : Event ReconcileEffect ReconcileAnswer → Prop
  | ⟨.insertRun asked _, .ok (some _)⟩ => asked = runKey
  | ⟨.selectRun asked, .ok (some row)⟩ => asked = runKey ∧ row.status ≠ .completed ∧ row.status ≠ .running
  | _ => False

private theorem entered_once {attempt : Attempt} {event : Event ReconcileEffect ReconcileAnswer}
    (permitted : attempting.permits attempt event.effect) (enters : Enters runKey event) :
    (attempting.after attempt event.effect event.answer).runKey = some runKey := by
  obtain ⟨effect, answer⟩ := event
  cases effect with
  | insertRun asked mode =>
    match answer with
    | .ok (some row) =>
      cases enters
      cases attempt with
      | opening => rfl
      | _ => cases permitted
    | .ok none | .error _ => cases enters
  | selectRun asked =>
    match answer with
    | .ok (some row) =>
      obtain ⟨rfl, unfinished⟩ := enters
      cases attempt with
      | looking key =>
        cases permitted
        have entered : attempting.after (.looking asked) (.selectRun asked) (.ok (some row)) =
            .working asked row.id [] [] [] [] := if_neg (not_or.mpr unfinished)
        exact congrArg Attempt.runKey entered
      | _ => cases permitted
    | .ok none | .error _ => cases enters
  | _ => cases enters

private theorem executing_stays {attempt : Attempt} {event : Event ReconcileEffect ReconcileAnswer}
    (permitted : attempting.permits attempt event.effect) (executing : attempt.runKey = some runKey) :
    (attempting.after attempt event.effect event.answer).runKey = some runKey ∨
      attempting.after attempt event.effect event.answer = .closed := by
  obtain ⟨effect, answer⟩ := event
  cases attempt with
  | working =>
    cases executing
    cases effect with
    | getTrade => exact .inl rfl
    | failRun => exact .inr rfl
    | completeRun =>
      match answer with
      | .ok _ => exact .inr rfl
      | .error _ => exact .inl rfl
    | fetchTrades =>
      match answer with
      | .ok _ | .error _ => exact .inl rfl
    | upsertRunTradeScope | upsertDrift | notify =>
      match answer with
      | .ok _ | .error _ => exact .inl rfl
    | _ => cases permitted
  | failing =>
    cases effect with
    | failRun => exact .inr rfl
    | _ => cases permitted
  | _ => cases executing

/-- A call that was let in executes the key until it returns. -/
theorem traced_executes {events : List (Event ReconcileEffect ReconcileAnswer)}
    (traced : attempting.Traced .opening events attempt) (member : event ∈ events) (enters : Enters runKey event) :
    attempt.runKey = some runKey ∨ attempt = .closed := by
  induction traced with
  | start => cases member
  | next earlier permitted ih =>
    rcases List.mem_cons.mp member with rfl | before
    · exact .inl (entered_once permitted enters)
    · rcases ih before with executing | rfl
      · exact executing_stays permitted executing
      · cases permitted

private theorem working_executes (run : (reconcileServer settings).system.Run history pool)
    (working : Working history pool pid runKey) :
    ∃ attempt, casting attempting (fun _ => .opening) history pid = some attempt ∧ attempt.runKey = some runKey := by
  obtain ⟨⟨effect, rest, present⟩, entered⟩ := working
  obtain ⟨attempt, assigned, plays⟩ := (Server.run_casting (attempts_follow settings) run).assigned present
  obtain ⟨_, _, traced⟩ := Server.casting_traced (attempts_follow settings) run assigned
  have executing : attempt.runKey = some runKey ∨ attempt = .closed := by
    rcases entered with ⟨mode, row, made⟩ | ⟨row, made, unfinished⟩
    · exact traced_executes traced (made_iff.mp made) rfl
    · exact traced_executes traced (made_iff.mp made) ⟨rfl, unfinished⟩
  rcases executing with executing | rfl
  · exact ⟨attempt, assigned, executing⟩
  · exact plays.1.elim

/-- Where no failed key is executed again and no page repeats a trade, every completed run
has counted the rows stored for it, and one call at most is working on a key. -/
theorem run_bookkeeping (settings : ReconcileSettings) (run : (reconcileServer settings).system.Run history pool)
    (orderly : Throughout Orderly history) :
    (∀ runKey row, pool.world.runs runKey = some row → row.status = .completed → row.Accurate runKey pool.world) ∧
      ∀ pid other runKey, Working history pool pid runKey → Working history pool other runKey → pid = other := by
  have booked := run_booked run orderly
  constructor
  · intro runKey row present completed
    exact booked.accurate present completed
  · intro pid other runKey first second
    obtain ⟨attempt, assigned, executing⟩ := working_executes run first
    obtain ⟨rival, opposed, rivalling⟩ := working_executes run second
    exact booked.alone pid other attempt rival runKey assigned opposed executing rivalling

section Examples

/-- `Orderly`, checked. -/
def tidy (earlier : ReconcileHistory) (step : ReconcileEntry) : Bool :=
  match step.label with
  | .perform _ ⟨.selectRun runKey, _⟩ => (step.before.world.runs runKey).all fun row => row.status ≠ .failed
  | .perform pid ⟨.fetchTrades _ _, .ok records⟩ =>
    (records.map (·.tradeId)).Nodup && earlier.all fun other =>
      match other.label with
      | .perform reader ⟨.fetchTrades _ _, .ok sooner⟩ =>
        reader ≠ pid || records.all fun record => record.tradeId ∉ sooner.map (·.tradeId)
      | _ => true
  | _ => true

theorem orderly_of_tidy (earlier : ReconcileHistory) (step : ReconcileEntry) (checked : tidy earlier step = true) :
    Orderly earlier step := by
  constructor
  · intro pid runKey answer row label present
    unfold tidy at checked
    rw [label] at checked
    dsimp only at checked
    rw [present] at checked
    simpa using checked
  · intro pid limit offset records label
    unfold tidy at checked
    rw [label] at checked
    simp only [Bool.and_eq_true, decide_eq_true_eq, List.all_eq_true] at checked
    refine ⟨checked.1, ?_⟩
    intro tradeId member listed
    obtain ⟨_, _, sooner, ⟨other, present, made⟩, before⟩ := listed
    have apart := checked.2 other present
    rw [made] at apart
    obtain ⟨record, inside, rfl⟩ := List.mem_map.mp member
    simp only [ne_eq, not_true_eq_false, decide_false, Bool.false_or, List.all_eq_true, decide_eq_true_eq] at apart
    exact apart record inside before

/-- The statements at these moves are refused. -/
def refusing (moves : List Nat) (time : Nat) : ReconcileChoice :=
  ⟨if time ∈ moves then .refused else .acknowledged, "", true⟩

def onceCall : ReconcileCall :=
  ⟨.once, some "once-1"⟩

/-- The trade could not be read. -/
def unreadRow : ReconcileRunRow :=
  ⟨1, "once-1", .once, .completed, 1, 1, ⟨1, 0, 0, 0⟩, none⟩

end Examples

/-- A run records a trade it cannot read, and completes. -/
theorem unread_trade_counted : ∃ (history : ReconcileHistory) (pool : ReconcilePool),
    (reconcileServer onePage).system.Run history pool ∧ Throughout Orderly history ∧
      pool.world.runs "once-1" = some unreadRow ∧ unreadRow.Accurate "once-1" pool.world := by
  obtain ⟨recording, run, checked⟩ := (reconcileServer onePage).record_run reconcileServing (refusing [4])
    (emptyTables oneRecord oneTrade) [.start 0 onceCall, .go 0 7]
    (fun recording => checkEach tidy recording.history &&
      decide (recording.pool.world.runs "once-1" = some unreadRow))
    rfl ⟨fun _ => rfl, rfl, rfl⟩ (by decide +kernel)
  simp only [Bool.and_eq_true, decide_eq_true_eq] at checked
  have orderly := throughout_of_checkEach orderly_of_tidy checked.1
  have completed : unreadRow.status = .completed := rfl
  have accurate := (run_bookkeeping onePage run orderly).1 "once-1" unreadRow checked.2 completed
  exact ⟨recording.history, recording.pool, run, orderly, checked.2, accurate⟩

/-- A run fails after it has recorded a trade it cannot read; its key is executed again,
finds nothing, and completes with the drift of the first attempt beside it. -/
theorem failed_key_reused : ¬ ∀ (settings : ReconcileSettings) (history : ReconcileHistory) (pool : ReconcilePool),
    (reconcileServer settings).system.Run history pool →
      (∀ runKey row, pool.world.runs runKey = some row → row.status = .completed → row.Accurate runKey pool.world) ∧
        ∀ pid other runKey, Working history pool pid runKey → Working history pool other runKey → pid = other := by
  intro bookkeeping
  obtain ⟨recording, run, checked⟩ := (reconcileServer onePage).record_run reconcileServing (refusing [4, 7])
    (emptyTables oneRecord oneTrade) [.start 0 onceCall, .go 0 8, .start 1 onceCall, .go 1 6]
    (fun recording => decide (recording.pool.world.runs "once-1" =
        some ⟨1, "once-1", .once, .completed, 1, 0, noCounts, some connectionLost⟩) &&
      decide ((recording.pool.world.driftsOf "once-1").length = 1))
    rfl ⟨fun _ => rfl, rfl, rfl⟩ (by decide +kernel)
  simp only [Bool.and_eq_true, decide_eq_true_eq] at checked
  have accurate := (bookkeeping onePage _ _ run).1 _ _ checked.1 rfl
  have counted : 0 = (recording.pool.world.driftsOf "once-1").length := accurate.drifts
  omega

end Claims

end Agroasys.Reconciliation
