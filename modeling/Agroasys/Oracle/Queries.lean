import Agroasys.Foundation.Pool
import Agroasys.Oracle.StateValidator
import Mathlib.Data.List.Pairwise

/-! The calls the service awaits, and the table behind the first seven of them. Every
SQL statement is atomic; its answer may be an error even where it took effect. -/

namespace Agroasys.Oracle

open Function Agroasys.Foundation Agroasys.Escrow

/-- The place in the code a row is inserted from. -/
inductive Origin where
  /-- `executeTrigger`, to wait for an approval. -/
  | approval
  /-- `executeTrigger`, to execute at once. -/
  | execution
  /-- `handleRedrive` of this exhausted row. -/
  | redrive (exhausted : Trigger)
  deriving DecidableEq

inductive Effect where
  | getLatestTriggerByActionKey (actionKey : String)
  | getTriggerByIdempotencyKey (idempotencyKey : String)
  | insertTrigger (origin : Origin) (data : CreateTriggerData)
  | updateTrigger (idempotencyKey : String) (updates : UpdateTriggerData)
  | approveTrigger (idempotencyKey actor : String)
  | rejectTrigger (idempotencyKey actor : String) (reason : Option String)
  | getTriggersByStatus (status : TriggerStatus) (limit : Nat)
  /-- `getTrade` of the SDK. -/
  | getTrade (tradeId : String)
  /-- The transaction `executeBlockchainAction` sends for a row. -/
  | sendTransaction (idempotencyKey : String) (triggerType : TriggerType) (tradeId : String)
  | findConfirmationEvent (txHash tradeId : String)
  /-- The log line an attempt of the retry loop starts with. -/
  | logAttempt (idempotencyKey : String) (attempt : Nat)
  /-- `lastOnChainCheckByTradeId.get`. -/
  | lastOnChainCheck (tradeId : String)
  /-- `lastOnChainCheckByTradeId.set`. -/
  | recordOnChainCheck (tradeId : String) (time : Nat)
  /-- `Date.now()`. -/
  | now
  /-- `crypto.randomBytes(16)`, in hexadecimal. -/
  | randomBytes
  | jitter (bound : Nat)
  | sleep (milliseconds : Nat)
  deriving DecidableEq

abbrev Answer : Effect → Type
  | .getLatestTriggerByActionKey _ => Except ForeignError (Option Trigger)
  | .getTriggerByIdempotencyKey _ => Except ForeignError (Option Trigger)
  | .insertTrigger _ _ => Except ForeignError Trigger
  | .updateTrigger _ _ => Except ForeignError Unit
  | .approveTrigger _ _ => Except ForeignError (Option Trigger)
  | .rejectTrigger _ _ _ => Except ForeignError (Option Trigger)
  | .getTriggersByStatus _ _ => Except ForeignError (List Trigger)
  | .getTrade _ => Except ForeignError Trade
  | .sendTransaction _ _ _ => Except ForeignError BlockchainResult
  | .findConfirmationEvent _ _ => Except ForeignError (Option ConfirmationEvent)
  | .logAttempt _ _ => Unit
  | .lastOnChainCheck _ => Option Nat
  | .recordOnChainCheck _ _ => Unit
  | .now => Nat
  | .randomBytes => String
  | .jitter _ => Nat
  | .sleep _ => Unit

/-- The statuses `idx_active_action_key_unique` covers. -/
def TriggerStatus.indexed : TriggerStatus → Bool
  | .pending | .executing | .submitted | .pendingApproval => true
  | _ => false

/-- Two rows the partial unique index lets stand side by side. -/
def Compatible (first second : Trigger) : Prop :=
  first.status.indexed = true → second.status.indexed = true → first.actionKey ≠ second.actionKey

instance : DecidableRel Compatible := fun _ _ => inferInstanceAs (Decidable (_ → _ → _))

/-- `oracle_triggers`, with its primary key and its partial unique index. -/
structure Table where
  rows : List Trigger
  keys : (rows.map Trigger.idempotencyKey).Nodup
  index : rows.Pairwise Compatible

namespace Table

def empty : Table := ⟨[], by simp, by simp⟩

def lookup (table : Table) (idempotencyKey : String) : Option Trigger :=
  table.rows.find? (·.idempotencyKey = idempotencyKey)

/-- The table with these rows; `none` where a unique constraint forbids them. -/
def ofRows (rows : List Trigger) : Option Table :=
  if valid : (rows.map Trigger.idempotencyKey).Nodup ∧ rows.Pairwise Compatible then
    some ⟨rows, valid.1, valid.2⟩
  else none

def insert (table : Table) (row : Trigger) : Option Table :=
  ofRows (row :: table.rows)

/-- An `UPDATE` of the row with this key, if it meets the condition. -/
def updateWhere (table : Table) (idempotencyKey : String) (condition : Trigger → Bool)
    (change : Trigger → Trigger) : Option Table :=
  ofRows (table.rows.map fun row =>
    if row.idempotencyKey = idempotencyKey ∧ condition row then change row else row)

theorem lookup_eq_some {table : Table} {row : Trigger}
    (found : table.lookup key = some row) :
    row ∈ table.rows ∧ row.idempotencyKey = key := by
  unfold lookup at found
  have matched := List.find?_some found
  exact ⟨List.mem_of_find?_eq_some found, by simpa using matched⟩

theorem lookup_of_mem {table : Table} (member : row ∈ table.rows) :
    table.lookup row.idempotencyKey = some row := by
  obtain ⟨rows, keys, index⟩ := table
  unfold lookup
  dsimp only at member ⊢
  clear index
  induction rows with
  | nil => simp at member
  | cons head rest ih =>
    rw [List.map_cons, List.nodup_cons] at keys
    rcases List.mem_cons.mp member with same | later
    · simp [same]
    · have different : head.idempotencyKey ≠ row.idempotencyKey := by
        intro same
        exact keys.1 (same ▸ List.mem_map_of_mem later)
      rw [List.find?_cons_of_neg (by simpa using different)]
      exact ih keys.2 later

private theorem lookup_iff {table : Table} :
    table.lookup key = some row ↔ row ∈ table.rows ∧ row.idempotencyKey = key := by
  constructor
  · exact lookup_eq_some
  · intro found
    rw [← found.2]
    exact lookup_of_mem found.1

private theorem ofRows_eq_some {rows : List Trigger} {table : Table}
    (success : ofRows rows = some table) : table.rows = rows := by
  unfold ofRows at success
  split at success
  · cases success
    rfl
  · cases success

private theorem insert_eq_some {table next : Table} (success : table.insert row = some next) :
    table.lookup row.idempotencyKey = none ∧
      next.lookup = update table.lookup row.idempotencyKey (some row) := by
  have rows := ofRows_eq_some success
  have fresh : table.lookup row.idempotencyKey = none := by
    have keys := next.keys
    rw [rows, List.map_cons, List.nodup_cons] at keys
    cases found : table.lookup row.idempotencyKey with
    | none => rfl
    | some other =>
      obtain ⟨member, same⟩ := lookup_eq_some found
      exact absurd (same ▸ List.mem_map_of_mem member) keys.1
  refine ⟨fresh, ?_⟩
  funext key
  unfold lookup
  rw [rows]
  by_cases same : key = row.idempotencyKey
  · simp [same]
  · rw [List.find?_cons_of_neg (by simpa using Ne.symm same), update_of_ne same]

private theorem updateWhere_eq_some {table next : Table} {condition : Trigger → Bool}
    {change : Trigger → Trigger} (kept : ∀ row, (change row).idempotencyKey = row.idempotencyKey)
    (success : table.updateWhere key condition change = some next) :
    next.lookup = update table.lookup key
      ((table.lookup key).map fun row => if condition row then change row else row) := by
  have rows := ofRows_eq_some success
  funext other
  ext row
  rw [lookup_iff, rows]
  by_cases same : other = key
  · subst same
    rw [update_self, Option.map_eq_some_iff]
    constructor
    · intro found
      obtain ⟨member, keyed⟩ := found
      obtain ⟨original, present, rfl⟩ := List.mem_map.mp member
      refine ⟨original, lookup_iff.mpr ⟨present, ?_⟩, ?_⟩
      · split at keyed
        · rwa [kept] at keyed
        · exact keyed
      · split at keyed
        · rw [kept] at keyed
          simp [keyed]
        · simp [keyed]
    · intro found
      obtain ⟨original, present, rfl⟩ := found
      obtain ⟨member, keyed⟩ := lookup_eq_some present
      refine ⟨List.mem_map.mpr ⟨original, member, by simp [keyed]⟩, ?_⟩
      split
      · rw [kept, keyed]
      · exact keyed
  · rw [update_of_ne same, lookup_iff]
    constructor
    · intro found
      obtain ⟨member, keyed⟩ := found
      obtain ⟨original, present, rfl⟩ := List.mem_map.mp member
      split at keyed
      · rename_i hit
        rw [kept, hit.1] at keyed
        exact absurd keyed.symm same
      · rename_i missed
        rw [if_neg missed]
        exact ⟨present, keyed⟩
    · intro found
      refine ⟨List.mem_map.mpr ⟨row, found.1, ?_⟩, found.2⟩
      rw [if_neg (by rw [found.2]; exact fun hit => same hit.1)]

/-- `ORDER BY created_at DESC LIMIT 1`; rows created at one instant come in any order. -/
def Latest (table : Table) (actionKey : String) : Option Trigger → Prop
  | none => ∀ row ∈ table.rows, row.actionKey ≠ actionKey
  | some latest => latest ∈ table.rows ∧ latest.actionKey = actionKey ∧
      ∀ row ∈ table.rows, row.actionKey = actionKey → row.createdAt ≤ latest.createdAt

/-- `ORDER BY created_at ASC LIMIT $2` over the rows of one status. -/
structure Oldest (table : Table) (status : TriggerStatus) (limit : Nat) (rows : List Trigger) :
    Prop where
  distinct : (rows.map Trigger.idempotencyKey).Nodup
  ordered : rows.Pairwise fun earlier later => earlier.createdAt ≤ later.createdAt
  selected : ∀ row ∈ rows, row ∈ table.rows ∧ row.status = status
  limited : rows.length ≤ limit
  rest : ∀ row ∈ table.rows, row.status = status → row ∉ rows →
    rows.length = limit ∧ ∀ chosen ∈ rows, chosen.createdAt ≤ row.createdAt

end Table

/-- The inserted row: the columns not given take their defaults. -/
def CreateTriggerData.row (data : CreateTriggerData) (createdAt : Nat) : Trigger where
  actionKey := data.actionKey
  requestId := data.requestId
  idempotencyKey := data.idempotencyKey
  tradeId := data.tradeId
  triggerType := data.triggerType
  requestHash := data.requestHash
  attemptCount := 0
  status := data.status
  txHash := none
  blockNumber := none
  indexerConfirmed := false
  indexerEventId := none
  lastError := none
  errorType := none
  onChainVerified := false
  createdAt := createdAt
  submittedAt := none
  approvedBy := none
  rejectedBy := none
  rejectionReason := none

def UpdateTriggerData.apply (updates : UpdateTriggerData) (row : Trigger) : Trigger :=
  { row with
    status := updates.status.getD row.status
    attemptCount := updates.attemptCount.getD row.attemptCount
    txHash := updates.txHash.or row.txHash
    blockNumber := updates.blockNumber.or row.blockNumber
    indexerConfirmed := updates.indexerConfirmed.getD row.indexerConfirmed
    indexerEventId := updates.indexerEventId.or row.indexerEventId
    lastError := updates.lastError.or row.lastError
    errorType := updates.errorType.or row.errorType
    submittedAt := updates.submittedAt.or row.submittedAt
    onChainVerified := updates.onChainVerified.getD row.onChainVerified }

@[simp] theorem apply_idempotencyKey (updates : UpdateTriggerData) (row : Trigger) :
    (updates.apply row).idempotencyKey = row.idempotencyKey := rfl
@[simp] theorem apply_actionKey (updates : UpdateTriggerData) (row : Trigger) :
    (updates.apply row).actionKey = row.actionKey := rfl
@[simp] theorem apply_status (updates : UpdateTriggerData) (row : Trigger) :
    (updates.apply row).status = updates.status.getD row.status := rfl
@[simp] theorem apply_txHash (updates : UpdateTriggerData) (row : Trigger) :
    (updates.apply row).txHash = updates.txHash.or row.txHash := rfl

def Trigger.awaitsApproval (row : Trigger) : Bool :=
  row.status = .pendingApproval

def Trigger.approve (actor : String) (row : Trigger) : Trigger :=
  { row with status := .pending, approvedBy := some actor }

def Trigger.reject (actor : String) (reason : Option String) (row : Trigger) : Trigger :=
  { row with status := .rejected, rejectedBy := some actor, rejectionReason := reason }

/-- The code of Postgres' `unique_violation`. -/
def uniqueViolation : Option String := some "23505"

/-- A writing statement and its answer. Refused by a unique constraint it changes
nothing; any other error leaves open whether it took effect. -/
def Written (before : Table) (statement : Option Table) (returned : α)
    (answer : Except ForeignError α) (after : Table) : Prop :=
  match answer with
  | .ok value => statement = some after ∧ value = returned
  | .error error =>
    if error.code = uniqueViolation then statement = none ∧ after = before
    else after = before ∨ statement = some after

/-- What the database answers a call, and the table it leaves. -/
def Table.serves (before : Table) (event : Event Effect Answer) (after : Table) : Prop :=
  match event with
  | ⟨.getLatestTriggerByActionKey actionKey, answer⟩ => after = before ∧
      ∀ row, answer = .ok row → before.Latest actionKey row
  | ⟨.getTriggerByIdempotencyKey key, answer⟩ => after = before ∧
      ∀ row, answer = .ok row → row = before.lookup key
  | ⟨.insertTrigger _ data, answer⟩ => ∃ createdAt,
      Written before (before.insert (data.row createdAt)) (data.row createdAt) answer after
  | ⟨.updateTrigger key updates, answer⟩ =>
      Written before (before.updateWhere key (fun _ => true) updates.apply) () answer after
  | ⟨.approveTrigger key actor, answer⟩ =>
      Written before (before.updateWhere key Trigger.awaitsApproval (Trigger.approve actor))
        (((before.lookup key).filter Trigger.awaitsApproval).map (Trigger.approve actor)) answer after
  | ⟨.rejectTrigger key actor reason, answer⟩ =>
      Written before (before.updateWhere key Trigger.awaitsApproval (Trigger.reject actor reason))
        (((before.lookup key).filter Trigger.awaitsApproval).map (Trigger.reject actor reason))
        answer after
  | ⟨.getTriggersByStatus status limit, answer⟩ => after = before ∧
      ∀ rows, answer = .ok rows → before.Oldest status limit rows
  | _ => after = before

section Served

variable {before after : Table}

theorem written_cases (written : Written before statement returned answer after) :
    (statement = some after ∧ (answer = .ok returned ∨
        ∃ error, answer = .error error ∧ error.code ≠ uniqueViolation)) ∨
      (after = before ∧ ∃ error, answer = .error error) := by
  cases answer with
  | ok value => exact .inl ⟨written.1, .inl (written.2 ▸ rfl)⟩
  | error error =>
    unfold Written at written
    dsimp only at written
    split at written
    · exact .inr ⟨written.2, error, rfl⟩
    · rename_i different
      rcases written with kept | done
      · exact .inr ⟨kept, error, rfl⟩
      · exact .inl ⟨done, .inr ⟨error, rfl, different⟩⟩

theorem insert_served (served : before.serves ⟨.insertTrigger origin data, answer⟩ after) :
    (∃ createdAt, before.lookup data.idempotencyKey = none ∧
        after.lookup = update before.lookup data.idempotencyKey (some (data.row createdAt)) ∧
        (answer = .ok (data.row createdAt) ∨
          ∃ error, answer = .error error ∧ error.code ≠ uniqueViolation)) ∨
      (after = before ∧ ∃ error, answer = .error error) := by
  obtain ⟨createdAt, written⟩ := served
  rcases written_cases written with ⟨success, answered⟩ | kept
  · obtain ⟨fresh, lookup⟩ := Table.insert_eq_some success
    exact .inl ⟨createdAt, fresh, lookup, answered⟩
  · exact .inr kept

theorem update_served (served : before.serves ⟨.updateTrigger key updates, answer⟩ after) :
    after.lookup = update before.lookup key ((before.lookup key).map updates.apply) ∨
      (after = before ∧ ∃ error, answer = .error error) := by
  rcases written_cases served with ⟨success, _⟩ | kept
  · exact .inl (by simpa using Table.updateWhere_eq_some (apply_idempotencyKey updates) success)
  · exact .inr kept

/-- A compare-and-set of a row that awaits an approval. -/
theorem decision_served {settle : Trigger → Trigger}
    (kept : ∀ row, (settle row).idempotencyKey = row.idempotencyKey)
    (written : Written before (before.updateWhere key Trigger.awaitsApproval settle)
      (((before.lookup key).filter Trigger.awaitsApproval).map settle) answer after) :
    (∃ row, before.lookup key = some row ∧ row.status = .pendingApproval ∧
        after.lookup = update before.lookup key (some (settle row)) ∧
        (answer = .ok (some (settle row)) ∨ ∃ error, answer = .error error)) ∨
      (after.lookup = before.lookup ∧ (answer = .ok none ∨ ∃ error, answer = .error error)) := by
  rcases written_cases written with ⟨success, answered⟩ | ⟨same, failed⟩
  · have lookup := Table.updateWhere_eq_some kept success
    have failed : (∃ error, answer = .error error ∧ error.code ≠ uniqueViolation) →
        ∃ error, answer = .error error := fun ⟨error, raised, _⟩ => ⟨error, raised⟩
    have answered := answered.imp_right failed
    cases found : before.lookup key with
    | none =>
      rw [found] at answered
      refine .inr ⟨?_, answered⟩
      rw [lookup, found, Option.map_none, ← found, update_eq_self]
    | some row =>
      rw [found] at lookup answered
      by_cases awaits : row.status = .pendingApproval
      · have settles : row.awaitsApproval = true := by simpa [Trigger.awaitsApproval] using awaits
        rw [Option.filter_some_pos settles, Option.map_some] at answered
        rw [Option.map_some, if_pos settles] at lookup
        exact .inl ⟨row, rfl, awaits, lookup, answered⟩
      · have settled : ¬ row.awaitsApproval = true := by simpa [Trigger.awaitsApproval] using awaits
        rw [Option.filter_some, if_neg settled, Option.map_none] at answered
        rw [Option.map_some, if_neg settled, ← found, update_eq_self] at lookup
        exact .inr ⟨lookup, answered⟩
  · exact .inr ⟨same ▸ rfl, .inr failed⟩

theorem approve_served (served : before.serves ⟨.approveTrigger key actor, answer⟩ after) :
    (∃ row, before.lookup key = some row ∧ row.status = .pendingApproval ∧
        after.lookup = update before.lookup key (some (row.approve actor)) ∧
        (answer = .ok (some (row.approve actor)) ∨ ∃ error, answer = .error error)) ∨
      (after.lookup = before.lookup ∧ (answer = .ok none ∨ ∃ error, answer = .error error)) :=
  decision_served (by intro _; rfl) served

theorem reject_served (served : before.serves ⟨.rejectTrigger key actor reason, answer⟩ after) :
    (∃ row, before.lookup key = some row ∧ row.status = .pendingApproval ∧
        after.lookup = update before.lookup key (some (row.reject actor reason)) ∧
        (answer = .ok (some (row.reject actor reason)) ∨ ∃ error, answer = .error error)) ∨
      (after.lookup = before.lookup ∧ (answer = .ok none ∨ ∃ error, answer = .error error)) :=
  decision_served (by intro _; rfl) served

end Served

end Agroasys.Oracle
