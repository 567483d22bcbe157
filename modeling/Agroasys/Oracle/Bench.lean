import Agroasys.Oracle.Records

/-! A service that answers by itself: the database follows its statements, and a
script gives what the chain, the indexer and the clock answer at each move. -/

namespace Agroasys.Oracle

open Function Agroasys.Foundation Agroasys.Escrow

structure Script where
  getTrade : Nat → String → Except ForeignError Trade
  sendTransaction : Nat → String → Except ForeignError BlockchainResult
  findConfirmationEvent : Nat → String → Except ForeignError (Option ConfirmationEvent)
  now : Nat → Nat

/-- An outside that may answer anything. -/
def anything : Outside Unit where
  getTrade _ _ _ := True
  sendTransaction _ _ _ _ _ := True
  findConfirmationEvent _ _ _ _ := True
  moves _ _ := True

instance (table : Table) (actionKey : String) (latest : Option Trigger) :
    Decidable (table.Latest actionKey latest) := by
  cases latest with
  | none => exact inferInstanceAs (Decidable (∀ row ∈ table.rows, row.actionKey ≠ actionKey))
  | some latest => exact inferInstanceAs (Decidable (_ ∧ _ ∧ ∀ row ∈ table.rows, _ → _))

instance (table : Table) (status : TriggerStatus) (limit : Nat) (rows : List Trigger) :
    Decidable (table.Oldest status limit rows) :=
  decidable_of_iff
    ((rows.map Trigger.idempotencyKey).Nodup ∧
      (rows.Pairwise fun earlier later => earlier.createdAt ≤ later.createdAt) ∧
      (∀ row ∈ rows, row ∈ table.rows ∧ row.status = status) ∧ rows.length ≤ limit ∧
      ∀ row ∈ table.rows, row.status = status → row ∉ rows →
        rows.length = limit ∧ ∀ chosen ∈ rows, chosen.createdAt ≤ row.createdAt)
    ⟨fun ⟨distinct, ordered, selected, limited, rest⟩ => ⟨distinct, ordered, selected, limited, rest⟩,
      fun oldest => ⟨oldest.distinct, oldest.ordered, oldest.selected, oldest.limited, oldest.rest⟩⟩

/-- The answer of a healthy database. The unique constraints are its only errors. -/
def Table.respond (table : Table) (time : Nat) (effect : Effect) : Option (Answer effect × Table) :=
  let violation : ForeignError :=
    ⟨"duplicate key value violates unique constraint", "", uniqueViolation, none⟩
  match effect with
  | .getLatestTriggerByActionKey actionKey =>
    let latest := table.rows.find? (·.actionKey = actionKey)
    if table.Latest actionKey latest then some (.ok latest, table) else none
  | .getTriggerByIdempotencyKey key => some (.ok (table.lookup key), table)
  | .insertTrigger _ data =>
    match table.insert (data.row time) with
    | some next => some (.ok (data.row time), next)
    | none => some (.error violation, table)
  | .updateTrigger key updates =>
    match table.updateWhere key (fun _ => true) updates.apply with
    | some next => some (.ok (), next)
    | none => some (.error violation, table)
  | .approveTrigger key actor =>
    match table.updateWhere key Trigger.awaitsApproval (Trigger.approve actor) with
    | some next =>
      some (.ok (((table.lookup key).filter Trigger.awaitsApproval).map (Trigger.approve actor)), next)
    | none => some (.error violation, table)
  | .rejectTrigger key actor reason =>
    match table.updateWhere key Trigger.awaitsApproval (Trigger.reject actor reason) with
    | some next =>
      some (.ok (((table.lookup key).filter Trigger.awaitsApproval).map
        (Trigger.reject actor reason)), next)
    | none => some (.error violation, table)
  | .getTriggersByStatus status limit =>
    let rows := (table.rows.filter (·.status = status)).reverse.take limit
    if table.Oldest status limit rows then some (.ok rows, table) else none
  | _ => none

def Script.respond (script : Script) (time : Nat) (state : State Unit) (effect : Effect) :
    Option (Answer effect × State Unit) :=
  match effect with
  | .getTrade tradeId => some (script.getTrade time tradeId, state)
  | .sendTransaction _ _ tradeId => some (script.sendTransaction time tradeId, state)
  | .findConfirmationEvent txHash _ => some (script.findConfirmationEvent time txHash, state)
  | .logAttempt _ _ => some ((), state)
  | .lastOnChainCheck tradeId => some (state.checks tradeId, state)
  | .recordOnChainCheck tradeId now =>
    some ((), { state with checks := update state.checks tradeId (some now) })
  | .now => some (script.now time, state)
  | .randomBytes => some (toString time, state)
  | .jitter _ => some (0, state)
  | .sleep _ => some ((), state)
  | effect => (state.table.respond time effect).map fun (answer, table) =>
      (answer, { state with table := table })

private theorem Table.respond_sound {table next : Table}
    (responded : table.respond time effect = some (answer, next)) :
    table.serves ⟨effect, answer⟩ next := by
  cases effect <;> simp only [Table.respond] at responded
  case getLatestTriggerByActionKey actionKey =>
    split at responded
    · rename_i latest
      cases responded
      exact ⟨rfl, by rintro _ ⟨⟩; exact latest⟩
    · cases responded
  case getTriggerByIdempotencyKey key =>
    cases responded
    exact ⟨rfl, by rintro _ ⟨⟩; rfl⟩
  case insertTrigger origin data =>
    split at responded
    · rename_i success
      cases responded
      exact ⟨time, success, rfl⟩
    · rename_i refused
      cases responded
      exact ⟨time, by simp [Written, refused]⟩
  case updateTrigger key updates =>
    split at responded
    · rename_i success
      cases responded
      exact ⟨success, rfl⟩
    · rename_i refused
      cases responded
      simp [Table.serves, Written, refused]
  case approveTrigger key actor =>
    split at responded
    · rename_i success
      cases responded
      exact ⟨success, rfl⟩
    · rename_i refused
      cases responded
      simp [Table.serves, Written, refused]
  case rejectTrigger key actor reason =>
    split at responded
    · rename_i success
      cases responded
      exact ⟨success, rfl⟩
    · rename_i refused
      cases responded
      simp [Table.serves, Written, refused]
  case getTriggersByStatus status limit =>
    split at responded
    · rename_i oldest
      cases responded
      exact ⟨rfl, by rintro _ ⟨⟩; exact oldest⟩
    · cases responded
  all_goals cases responded

theorem Script.respond_sound (script : Script) (time : Nat) (state : State Unit) (effect : Effect)
    (answer : Answer effect) (next : State Unit)
    (responded : script.respond time state effect = some (answer, next)) :
    State.serves anything state ⟨effect, answer⟩ next := by
  cases effect <;> simp only [Script.respond] at responded
  all_goals first
    | (obtain ⟨⟨answer', table⟩, success, same⟩ := Option.map_eq_some_iff.mp responded
       cases same
       exact ⟨Table.respond_sound success, rfl, rfl⟩)
    | (cases responded; exact ⟨rfl, rfl, trivial, rfl⟩)
    | (cases responded; exact ⟨rfl, rfl, trivial⟩)
    | (cases responded; exact ⟨rfl, ⟨rfl, rfl⟩, rfl⟩)
    | (cases responded; exact ⟨rfl, rfl, rfl⟩)

abbrev BenchDrive := Server.Drive Call Effect Answer Result (State Unit)

/-- The service from a table on, no call running. -/
def bench (table : Table) : ServicePool Unit :=
  ⟨⟨table, fun _ => none, ()⟩, fun _ => none⟩

def rehearse (settings : Settings) (script : Script) (table : Table) (cues : List (Cue Call)) :
    Option BenchDrive :=
  (service settings anything).schedule script.respond cues ([], bench table)

theorem rehearse_path {settings : Settings} (success : rehearse settings script table cues = some drive) :
    ∃ history, Path (service settings anything).system (bench table) history drive.2 ∧
      history.map Transition.label = drive.1 := by
  obtain ⟨history, path, labels⟩ :=
    Server.Driven.schedule script.respond_sound ⟨[], .start, rfl⟩ success
  exact ⟨history, path, by rw [labels, List.append_nil]⟩

/-- A rehearsal is a run of the service. -/
theorem rehearse_run {settings : Settings} (success : rehearse settings script table cues = some drive) :
    ∃ history, (service settings anything).system.Run history drive.2 ∧
      history.map Transition.label = drive.1 := by
  obtain ⟨history, path, labels⟩ := rehearse_path success
  exact ⟨history, ⟨bench table, ⟨trivial, fun _ => rfl⟩, path⟩, labels⟩

/-- One more call after a rehearsal. -/
theorem rehearse_advance {settings : Settings} {next : BenchDrive}
    (success : rehearse settings script table cues = some drive)
    (last : Server.advance script.respond pid drive = some next) :
    ∃ entry history, (service settings anything).system.Run (entry :: history) next.2 ∧
      entry.before = drive.2 ∧ entry.after = next.2 ∧
      (entry :: history).map Transition.label = next.1 := by
  obtain ⟨history, path, labels⟩ := rehearse_path success
  obtain ⟨move, taken, moves⟩ : ∃ move, (service settings anything).system.step drive.2 move next.2 ∧
      next.1 = move :: drive.1 := Server.advance_step script.respond_sound last
  exact ⟨_, history, ⟨bench table, ⟨trivial, fun _ => rfl⟩, path.next taken⟩, rfl, rfl,
    by rw [moves, ← labels]; rfl⟩

def startsPoll : ServiceMove → Bool
  | .start _ .pollConfirmations => true
  | _ => false

/-- What a finished call returned. -/
def responseOf (pool : ServicePool Unit) (pid : Nat) : Option TriggerResponse :=
  match pool.running pid with
  | some (.done (.ok (some response))) => some response
  | _ => none

theorem running_of_responseOf {pool : ServicePool Unit} (returned : responseOf pool pid = some response) :
    pool.running pid = some (.done (.ok (some response))) := by
  unfold responseOf at returned
  split at returned
  · rename_i same
    cases returned
    exact same
  · cases returned

def startsRequest (pid : Nat) (request : TriggerRequest) : ServiceMove → Bool
  | .start other (.executeTrigger asked) => other = pid && asked = request
  | _ => false

theorem started_of_labels {history : ServiceHistory κ}
    (starts : (history.map Transition.label).any (startsRequest pid request) = true) :
    Started history pid (.executeTrigger request) := by
  obtain ⟨_, labelled, started⟩ := List.any_eq_true.mp starts
  obtain ⟨entry, member, rfl⟩ := List.mem_map.mp labelled
  refine ⟨entry, member, ?_⟩
  unfold startsRequest at started
  split at started
  · rename_i other asked label
    simp only [Bool.and_eq_true, decide_eq_true_eq] at started
    obtain ⟨rfl, rfl⟩ := started
    exact label
  · cases started

/-- A locked trade, transactions that go through and an indexer that has not caught up. -/
def lockedTrade : Script where
  getTrade _ _ := .ok ⟨1, ⟨0xB0⟩, .locked, none⟩
  sendTransaction _ _ := .ok ⟨"0x01", 7⟩
  findConfirmationEvent _ _ := .ok none
  now time := time

def plainSettings : Settings := ⟨3, 1000, false⟩

def manualSettings : Settings := ⟨3, 1000, true⟩

def releaseRequest (isRedrive : Bool) : TriggerRequest :=
  ⟨"1", "req-1", .releaseStage1, none, isRedrive⟩

def pendingRow : Trigger :=
  CreateTriggerData.row ⟨"RELEASE_STAGE_1:1", "req-1", "RELEASE_STAGE_1:1:6", "1", .releaseStage1, none,
    .pending⟩ 0

end Agroasys.Oracle
