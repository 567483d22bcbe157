import Agroasys.Oracle.Bench
import Agroasys.Oracle.Holders

namespace Agroasys.Oracle

open Function Agroasys.Foundation

variable {κ : Type}

/-- The trade a string of digits stands for. -/
def denoted (tradeId : String) : Nat :=
  tradeId.toList.foldl (fun number digit => 10 * number + (digit.toNat - '0'.toNat)) 0

/-- What a row is to do on chain. -/
def Trigger.action (row : Trigger) : TriggerType × Nat :=
  (row.triggerType, denoted row.tradeId)

/-- Decimal notation without leading zeros. -/
def Canonical (tradeId : String) : Prop :=
  tradeId = toString (denoted tradeId)

instance : DecidablePred Canonical := fun _ => inferInstanceAs (Decidable (_ = _))

/-- Between its creation and a resting status. -/
def TriggerStatus.inFlight : TriggerStatus → Bool
  | .pending | .executing | .failed => true
  | _ => false

/-- In flight, or in a status that keeps other rows of the action out. -/
def TriggerStatus.standing (status : TriggerStatus) : Bool :=
  status.inFlight || status.indexed

/-- Every row carries the key of its action, and at most one row of an action stands. -/
structure Tidy (table : Table) : Prop where
  keyed : ∀ key row, table.lookup key = some row →
    row.actionKey = generateActionKey row.triggerType.value row.tradeId
  canonical : ∀ key row, table.lookup key = some row → Canonical row.tradeId
  single : ∀ key key' row row', table.lookup key = some row → table.lookup key' = some row' →
    row.status.standing = true → row'.status.standing = true → row.actionKey = row'.actionKey → key = key'

/-- Rows are inserted for canonical trade ids and never beside a `FAILED` row of their
action, and no insert is refused. -/
def Singly (_ : ServiceHistory κ) (entry : ServiceEntry κ) : Prop :=
  match entry.label with
  | .perform _ ⟨.insertTrigger _ data, answer⟩ => Canonical data.tradeId ∧
      (∀ row ∈ entry.before.world.table.rows, row.actionKey = data.actionKey → row.status ≠ .failed) ∧
      ∀ error, answer = .error error → error.code ≠ uniqueViolation
  | _ => True

structure Flight (history : ServiceHistory κ) (pool : ServicePool κ) (cast : Nat → Option Role) : Prop where
  holding : Holding true pool.world.table cast
  unpolled : ∀ pid role, cast pid = some role → role.polls = false
  tidy : Tidy pool.world.table
  redrives : ∀ pid exhausted, cast pid = some (.redriving exhausted) →
    exhausted.actionKey = generateActionKey exhausted.triggerType.value exhausted.tradeId
  logged : ∀ pid key attempt answer, Performed history pid ⟨.logAttempt key attempt, answer⟩ →
    cast pid = some (.executing key) ∨ cast pid = some .finished

section Flight

variable {history : ServiceHistory κ} {pool next : ServicePool κ} {cast : Nat → Option Role} {role : Role}

private theorem Singly.unshared (kept : Singly history ⟨pool, .perform pid event, next⟩) :
    Unshared true pool.world.table event next.world.table := by
  obtain ⟨effect, answer⟩ := event
  cases effect <;> try trivial
  case insertTrigger origin data =>
    cases answer with
    | ok row => trivial
    | error error => exact kept.2.2 error rfl
  case updateTrigger key updates =>
    cases answer with
    | ok value => trivial
    | error error => exact fun _ => .inl rfl

/-- A row that stands stood before. -/
theorem Advance.standing (advance : Advance true role effect key old new)
    (standing : new.status.standing = true) : old.status.standing = true := by
  cases advance with
  | stays => exact standing
  | works _ working => revert working; cases old.status <;> decide
  | verifies _ => cases standing
  | polls kept _ _ _ _ => cases kept
  | approves awaits _ => rw [awaits]; rfl
  | rejects _ _ _ => cases standing

private theorem Flight.polled (flight : Flight history pool cast) (assigned : cast pid = some role) :
    Polled true pool.world.table role := by
  intro keys polling
  subst polling
  cases flight.unpolled pid _ assigned

end Flight

/-- A node that cannot be reached when transactions are sent. -/
def unreachable : Script :=
  { lockedTrade with sendTransaction := fun _ _ => .error ⟨"connect ECONNREFUSED", "", none, none⟩ }

/-- A contract that is paused. -/
def stopped : Script :=
  { lockedTrade with sendTransaction := fun _ _ => .error ⟨"execution reverted: paused", "", none, none⟩ }

end Agroasys.Oracle
