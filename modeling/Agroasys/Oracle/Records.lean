import Agroasys.Oracle.Roles

namespace Agroasys.Oracle

open Function Agroasys.Foundation

variable {κ : Type}

/-- A call was made and answered. -/
def Performed (history : ServiceHistory κ) (pid : Nat) (event : Event Effect Answer) : Prop :=
  ∃ entry ∈ history, entry.label = .perform pid event

def Started (history : ServiceHistory κ) (pid : Nat) (call : Call) : Prop :=
  ∃ entry ∈ history, entry.label = .start pid call

/-- An insert of this call was refused by a unique constraint. -/
def Refused (history : ServiceHistory κ) (pid : Nat) : Prop :=
  ∃ origin data error, error.code = uniqueViolation ∧
    Performed history pid ⟨.insertTrigger origin data, .error error⟩

theorem Performed.head {history : ServiceHistory κ} {entry : ServiceEntry κ}
    (label : entry.label = .perform pid event) : Performed (entry :: history) pid event :=
  ⟨entry, List.mem_cons_self, label⟩

theorem Performed.later {history : ServiceHistory κ} (performed : Performed history pid event)
    (entry : ServiceEntry κ) : Performed (entry :: history) pid event := by
  obtain ⟨earlier, member, label⟩ := performed
  exact ⟨earlier, List.mem_cons_of_mem _ member, label⟩

theorem Started.later {history : ServiceHistory κ} (started : Started history pid call)
    (entry : ServiceEntry κ) : Started (entry :: history) pid call := by
  obtain ⟨earlier, member, label⟩ := started
  exact ⟨earlier, List.mem_cons_of_mem _ member, label⟩

theorem Refused.later {history : ServiceHistory κ} (refused : Refused history pid)
    (entry : ServiceEntry κ) : Refused (entry :: history) pid := by
  obtain ⟨origin, data, error, unique, performed⟩ := refused
  exact ⟨origin, data, error, unique, performed.later entry⟩

/-- The writing statements. -/
def Effect.writes : Effect → Bool
  | .insertTrigger _ _ | .updateTrigger _ _ | .approveTrigger _ _ | .rejectTrigger _ _ _ => true
  | _ => false

theorem serves_read {before after : Table} (served : before.serves event after)
    (reads : event.effect.writes = false) : after = before := by
  obtain ⟨effect, answer⟩ := event
  cases effect <;> first | exact served | exact served.1 | cases reads

def Table.status (table : Table) (key : String) : Option TriggerStatus :=
  (table.lookup key).map Trigger.status

section Statuses

variable {before after : Table}

theorem status_eq_some : before.status key = some status ↔
    ∃ row, before.lookup key = some row ∧ row.status = status := by
  simp [Table.status]

theorem status_of_lookup (same : after.lookup = before.lookup) : after.status = before.status := by
  funext key
  simp [Table.status, same]

theorem status_of_update (same : after.lookup = update before.lookup key (some row)) :
    after.status = update before.status key (some row.status) := by
  funext other
  by_cases equal : other = key
  · subst equal
    simp [Table.status, same]
  · simp [Table.status, same, equal]

/-- An update sets the status of the row it names, if it sets one. -/
theorem status_of_updateTrigger
    (served : before.serves ⟨.updateTrigger key updates, answer⟩ after)
    (written : updates.status = some status) :
    after.status = before.status ∨
      ∃ old, before.status key = some old ∧ after.status = update before.status key (some status) := by
  rcases update_served served with same | ⟨same, _⟩
  · cases found : before.lookup key with
    | none =>
      left
      apply status_of_lookup
      rw [same, found, Option.map_none, ← found, update_eq_self]
    | some row =>
      right
      rw [found, Option.map_some] at same
      refine ⟨row.status, by simp [Table.status, found], ?_⟩
      rw [status_of_update same]
      simp [written]
  · exact .inl (same ▸ rfl)

end Statuses

end Agroasys.Oracle
