import Agroasys.Oracle.Records

namespace Agroasys.Oracle

open Function Agroasys.Foundation

/-- The change a call in this role makes to a row. -/
inductive Change (role : Role) (effect : Effect) (key : String) (old : Trigger) : Trigger → Prop where
  | stays : Change role effect key old old
  | gates (gating : role = .gating key own) :
      Change role effect key old (UpdateTriggerData.apply { status := some .pendingApproval } old)
  | works (executing : role = .executing key) (loop : LoopUpdates updates status)
      (writes : effect = .updateTrigger key updates) : Change role effect key old (updates.apply old)
  | verifies (redriving : role = .redriving exhausted) (row : exhausted.idempotencyKey = key)
      (writes : effect = .updateTrigger key verifiedUpdates) :
      Change role effect key old (verifiedUpdates.apply old)
  | polls (polling : role = .polling keys) (member : key ∈ keys) (worker : WorkerUpdates updates)
      (writes : effect = .updateTrigger key updates) : Change role effect key old (updates.apply old)
  | approves (awaits : old.status = .pendingApproval) (actor : String) :
      Change role effect key old (old.approve actor)
  | rejects (awaits : old.status = .pendingApproval) (actor : String) (reason : Option String) :
      Change role effect key old (old.reject actor reason)

/-- The row a call works on alone. -/
def Role.holds : Role → Option String
  | .gating key _ | .executing key => some key
  | _ => none

def Role.polls : Role → Bool
  | .fetching | .polling _ => true
  | _ => false

section Changes

variable {before after : Table} {role : Role}

private theorem update_changes (permitted : role.permits manual (.updateTrigger key updates)) (old : Trigger) :
    Change role (.updateTrigger key updates) key old (updates.apply old) := by
  cases role <;> try exact permitted.elim
  case redriving exhausted =>
    obtain ⟨rfl, rfl⟩ := permitted
    exact .verifies rfl rfl rfl
  case gating row own =>
    obtain ⟨rfl, rfl⟩ := permitted
    exact .gates rfl
  case executing row =>
    obtain ⟨rfl, status, loop⟩ := permitted
    exact .works rfl loop rfl
  case polling keys =>
    obtain ⟨member, worker⟩ := permitted
    exact .polls rfl member worker rfl

private theorem decision_changes {decided : Trigger → Trigger} {answered : Trigger → Prop} {unanswered : Prop}
    (decision : (∃ row, before.lookup key = some row ∧ row.status = .pendingApproval ∧
        after.lookup = update before.lookup key (some (decided row)) ∧ answered row) ∨
      (after.lookup = before.lookup ∧ unanswered))
    (changes : ∀ row, row.status = .pendingApproval → Change role effect key row (decided row))
    (found : before.lookup other = some old) :
    ∃ new, after.lookup other = some new ∧ Change role effect other old new := by
  rcases decision with ⟨row, present, awaits, same, _⟩ | ⟨same, _⟩
  · by_cases equal : other = key
    · subst equal
      rw [present, Option.some.injEq] at found
      subst found
      exact ⟨decided row, by rw [same, update_self], changes row awaits⟩
    · exact ⟨old, by rw [same, update_of_ne equal, found], .stays⟩
  · exact ⟨old, same ▸ found, .stays⟩

/-- Every row there is stays, changed as the role says. -/
theorem row_changes (permitted : role.permits manual event.effect) (served : before.serves event after)
    (found : before.lookup key = some old) :
    ∃ new, after.lookup key = some new ∧ Change role event.effect key old new := by
  obtain ⟨effect, answer⟩ := event
  cases effect
  case insertTrigger origin data =>
    rcases insert_served served with ⟨createdAt, fresh, same, _⟩ | ⟨same, _⟩
    · have different : key ≠ data.idempotencyKey := by
        intro equal
        simp [equal, fresh] at found
      exact ⟨old, by rw [same, update_of_ne different, found], .stays⟩
    · exact ⟨old, same ▸ found, .stays⟩
  case updateTrigger row updates =>
    rcases update_served served with same | ⟨same, _⟩
    · by_cases equal : key = row
      · subst equal
        exact ⟨_, by rw [same, update_self, found, Option.map_some], update_changes permitted old⟩
      · exact ⟨old, by rw [same, update_of_ne equal, found], .stays⟩
    · exact ⟨old, same ▸ found, .stays⟩
  case approveTrigger row actor =>
    exact decision_changes (approve_served served) (fun _ awaits => .approves awaits actor) found
  case rejectTrigger row actor reason =>
    exact decision_changes (reject_served served) (fun _ awaits => .rejects awaits actor reason) found
  all_goals exact ⟨old, serves_read served rfl ▸ found, .stays⟩

/-- A call gets its row by inserting it, by approving it, or from a conflict. -/
theorem holds_after (served : before.serves ⟨effect, answer⟩ after)
    (holds : (role.after effect answer).holds = some key) :
    role.holds = some key ∨ before.lookup key = none ∨ before.status key = some .pendingApproval ∨
      ∃ origin, role = .conflicting origin := by
  cases effect
  case getLatestTriggerByActionKey actionKey =>
    cases answer with
    | error error => cases holds
    | ok latest =>
      cases role <;> cases latest <;> simp only [Role.after, Role.read] at holds
      case conflicting.some origin existing => exact .inr (.inr (.inr ⟨origin, rfl⟩))
      case asking.some request latest => split at holds <;> cases holds
      all_goals exact .inl holds
  case insertTrigger origin data =>
    rcases insert_served served with ⟨createdAt, fresh, _, rfl | ⟨error, rfl, other⟩⟩ | ⟨_, error, rfl⟩
    · right; left
      have own : (origin.role data.idempotencyKey true).holds = some key := holds
      cases origin <;> cases own <;> exact fresh
    · simp [Role.after, other, Role.holds] at holds
    · simp only [Role.after] at holds
      split at holds <;> cases holds
  case updateTrigger row updates =>
    cases answer <;> cases role <;> simp only [Role.after, Role.wrote] at holds
    all_goals first | cases holds | (split at holds <;> first | exact .inl holds | cases holds)
  case approveTrigger row actor =>
    rcases answer with error | (none | updated)
    · cases holds
    · cases holds
    · rcases approve_served served with ⟨old, found, awaits, _, answered⟩ | ⟨_, answered⟩
      · have returned : updated = old.approve actor := by simpa using answered
        have keyed : updated.idempotencyKey = row := by
          rw [returned]
          exact (Table.lookup_eq_some found).2
        simp only [Role.after, Role.holds, Option.some.injEq] at holds
        rw [← holds, keyed]
        exact .inr (.inr (.inl (by simp [Table.status, found, awaits])))
      · simp at answered
  case rejectTrigger row actor reason => rcases answer with error | (none | updated) <;> cases holds
  case getTriggersByStatus status limit => cases answer <;> cases holds
  all_goals exact .inl holds

theorem polls_after {effect : Effect} {answer : Answer effect}
    (permitted : role.permits manual effect) (polls : (role.after effect answer).polls = true) :
    role.polls = true := by
  have handed (origin : Origin) (key : String) (own : Bool) : (origin.role key own).polls = false := by
    cases origin <;> rfl
  cases effect
  case getLatestTriggerByActionKey actionKey =>
    cases answer with
    | error error => cases polls
    | ok latest =>
      cases role <;> try exact permitted.elim
      case asking request =>
        cases latest <;> simp only [Role.after, Role.read] at polls
        · cases polls
        · split at polls <;> cases polls
      case conflicting origin =>
        cases latest <;> simp only [Role.after, Role.read, handed] at polls
        · cases polls
        · cases polls
  case insertTrigger origin data =>
    cases answer with
    | ok row => simp [Role.after, handed] at polls
    | error error =>
      simp only [Role.after] at polls
      split at polls <;> cases polls
  case updateTrigger key updates =>
    cases role <;> first | rfl | exact permitted.elim | skip
    all_goals cases answer <;> simp only [Role.after, Role.wrote] at polls
    all_goals first | cases polls | (split at polls <;> cases polls)
  case approveTrigger key actor => rcases answer with error | (none | row) <;> cases polls
  case rejectTrigger key actor reason => rcases answer with error | (none | row) <;> cases polls
  case getTriggersByStatus status limit =>
    cases role <;> first | rfl | exact permitted.elim
  all_goals exact polls

end Changes

end Agroasys.Oracle
