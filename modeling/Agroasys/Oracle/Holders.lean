import Agroasys.Oracle.Changes

/-! Rows with a holder: as long as no insert is refused, every row in a retry loop is
worked on by one call, and nobody else changes it. -/

namespace Agroasys.Oracle

open Function Agroasys.Foundation

variable {κ : Type}

/-- The statuses of a row in somebody's retry loop or on its way to the gate. `lost` says
whether the loop may go on after a write of `SUBMITTED` that took effect. -/
def TriggerStatus.working (lost : Bool) : TriggerStatus → Bool
  | .pending | .executing | .failed => true
  | .submitted => lost
  | _ => false

/-- What a role that has a row rests on. -/
def Role.Rests (lost : Bool) (table : Table) : Role → Prop
  | .conflicting _ | .gating _ false => False
  | .gating key true => table.status key = some .pending
  | .executing key => ∃ status, table.status key = some status ∧ status.working lost = true
  | .redriving exhausted => table.status exhausted.idempotencyKey = some .exhaustedNeedsRedrive ∨
      table.status exhausted.idempotencyKey = some .confirmed
  | _ => True

/-- A change that somebody entitled to it makes to a row. -/
inductive Advance (lost : Bool) (role : Role) (effect : Effect) (key : String) (old : Trigger) :
    Trigger → Prop where
  | stays : Advance lost role effect key old old
  | works (holder : role.holds = some key) (working : old.status.working lost = true) :
      Advance lost role effect key old new
  | verifies (resting : old.status = .exhaustedNeedsRedrive ∨ old.status = .confirmed) :
      Advance lost role effect key old (verifiedUpdates.apply old)
  | polls (kept : lost = false) (polling : ∃ keys, role = .polling keys)
      (submitted : old.status = .submitted) (worker : WorkerUpdates updates)
      (writes : effect = .updateTrigger key updates) :
      Advance lost role effect key old (updates.apply old)
  | approves (awaits : old.status = .pendingApproval) (actor : String) :
      Advance lost role effect key old (old.approve actor)
  | rejects (awaits : old.status = .pendingApproval) (actor : String) (reason : Option String) :
      Advance lost role effect key old (old.reject actor reason)

structure Holding (lost : Bool) (table : Table) (cast : Nat → Option Role) : Prop where
  rests : ∀ pid role, cast pid = some role → role.Rests lost table
  alone : ∀ pid pid' role role' key, cast pid = some role → cast pid' = some role' →
    role.holds = some key → role'.holds = some key → pid = pid'

/-- The poll whose turn it is has submitted rows before it, and no loop goes on with
such a row. -/
def Polled (lost : Bool) (table : Table) (role : Role) : Prop :=
  ∀ keys, role = .polling keys → lost = false ∧ ∀ key ∈ keys, table.status key = some .submitted

/-- No insert is refused, and a lost write of `SUBMITTED` had no effect unless `lost`
says that it may. -/
def Unshared (lost : Bool) (before : Table) (event : Event Effect Answer) (after : Table) : Prop :=
  match event with
  | ⟨.insertTrigger _ _, .error error⟩ => error.code ≠ uniqueViolation
  | ⟨.updateTrigger key updates, .error _⟩ =>
    updates.status = some .submitted → lost = true ∨ after.lookup key = before.lookup key
  | _ => True

section Holding

variable {lost : Bool} {before after : Table} {cast : Nat → Option Role} {role role' : Role}

theorem Holding.held (holding : Holding lost before cast) (assigned : cast pid = some role)
    (holds : role.holds = some key) :
    ∃ old, before.lookup key = some old ∧ old.status.working lost = true := by
  have rests := holding.rests pid role assigned
  cases role <;> cases holds
  case gating own =>
    cases own with
    | false => exact rests.elim
    | true =>
      obtain ⟨old, found, pending⟩ := status_eq_some.mp rests
      exact ⟨old, found, by rw [pending]; rfl⟩
  case executing =>
    obtain ⟨status, now, working⟩ := rests
    obtain ⟨old, found, rfl⟩ := status_eq_some.mp now
    exact ⟨old, found, working⟩

theorem Holding.advances (holding : Holding lost before cast) (assigned : cast pid = some role)
    (polled : Polled lost before role) (permitted : role.permits manual event.effect)
    (served : before.serves event after) (found : before.lookup key = some old) :
    ∃ new, after.lookup key = some new ∧ Advance lost role event.effect key old new := by
  obtain ⟨new, now, change⟩ := row_changes permitted served found
  refine ⟨new, now, ?_⟩
  have working (holds : role.holds = some key) : old.status.working lost = true := by
    obtain ⟨_, present, working⟩ := holding.held assigned holds
    rw [found, Option.some.injEq] at present
    exact present ▸ working
  have status {now : TriggerStatus} (known : before.status key = some now) : old.status = now := by
    simpa [Table.status, found] using known
  cases change with
  | stays => exact .stays
  | gates gating => exact .works (gating ▸ rfl) (working (gating ▸ rfl))
  | works executing _ _ => exact .works (executing ▸ rfl) (working (executing ▸ rfl))
  | verifies redriving row _ =>
    subst redriving row
    exact .verifies ((holding.rests pid _ assigned).imp status status)
  | polls polling member worker writes =>
    obtain ⟨kept, submitted⟩ := polled _ polling
    exact .polls kept ⟨_, polling⟩ (status (submitted key member)) worker writes
  | approves awaits actor => exact .approves awaits actor
  | rejects awaits actor reason => exact .rejects awaits actor reason

/-- A row that is worked on is left alone by those who do not hold it. -/
theorem Advance.leaves_working {effect : Effect} (advance : Advance lost role effect key old new)
    (working : old.status.working lost = true) (other : role.holds ≠ some key) : new = old := by
  cases advance with
  | stays => rfl
  | works holder _ => exact absurd holder other
  | verifies resting => rcases resting with status | status <;> rw [status] at working <;> cases working
  | polls kept _ submitted _ _ => rw [submitted, kept] at working; cases working
  | approves awaits _ => rw [awaits] at working; cases working
  | rejects awaits _ _ => rw [awaits] at working; cases working

/-- A row that was given up or confirmed is left as it is or confirmed. -/
theorem Advance.resting {effect : Effect} (advance : Advance lost role effect key old new)
    (resting : old.status = .exhaustedNeedsRedrive ∨ old.status = .confirmed) :
    new.status = old.status ∨ new.status = .confirmed := by
  have idle : old.status.working lost = false := by rcases resting with status | status <;> rw [status] <;> rfl
  cases advance with
  | stays => exact .inl rfl
  | works _ working => rw [idle] at working; cases working
  | verifies _ => exact .inr rfl
  | polls _ _ submitted _ _ => rcases resting with status | status <;> rw [submitted] at status <;> cases status
  | approves awaits _ => rcases resting with status | status <;> rw [awaits] at status <;> cases status
  | rejects awaits _ _ => rcases resting with status | status <;> rw [awaits] at status <;> cases status

/-- What the roles of the other calls rest on. -/
theorem Holding.others_rest {effect : Effect} (holding : Holding lost before cast)
    (assigned : cast pid = some role)
    (advances : ∀ key old, before.lookup key = some old →
      ∃ new, after.lookup key = some new ∧ Advance lost role effect key old new)
    (different : other ≠ pid) (playing : cast other = some role') : role'.Rests lost after := by
  have rests := holding.rests other role' playing
  have advanced {key : String} {status : TriggerStatus} (known : before.status key = some status) :
      ∃ old new, old.status = status ∧ after.lookup key = some new ∧
        Advance lost role effect key old new := by
    obtain ⟨old, found, same⟩ := status_eq_some.mp known
    obtain ⟨new, now, advance⟩ := advances key old found
    exact ⟨old, new, same, now, advance⟩
  have unheld {key : String} (holds : role'.holds = some key) : role.holds ≠ some key :=
    fun both => different (holding.alone other pid role' role key playing assigned holds both)
  cases role' with
  | conflicting origin => exact rests
  | gating key own =>
    cases own with
    | false => exact rests
    | true =>
      obtain ⟨old, new, pending, now, advance⟩ := advanced rests
      have kept := advance.leaves_working (by rw [pending]; rfl) (unheld rfl)
      exact status_eq_some.mpr ⟨new, now, by rw [kept, pending]⟩
  | executing key =>
    obtain ⟨status, known, working⟩ := rests
    obtain ⟨old, new, rfl, now, advance⟩ := advanced known
    have kept := advance.leaves_working working (unheld rfl)
    exact ⟨old.status, status_eq_some.mpr ⟨new, now, by rw [kept]⟩, working⟩
  | redriving exhausted =>
    rcases rests with known | known
    · obtain ⟨old, new, status, now, advance⟩ := advanced known
      exact (advance.resting (.inl status)).imp
        (fun stays => status_eq_some.mpr ⟨new, now, stays.trans status⟩)
        fun moved => status_eq_some.mpr ⟨new, now, moved⟩
    · obtain ⟨old, new, status, now, advance⟩ := advanced known
      right
      rcases advance.resting (.inr status) with stays | moved
      · exact status_eq_some.mpr ⟨new, now, stays.trans status⟩
      · exact status_eq_some.mpr ⟨new, now, moved⟩
  | _ => trivial

/-- The row a call has just inserted. -/
theorem inserted_rests (now : after.status key = some .pending) (origin : Origin) :
    (origin.role key true).Rests lost after := by
  cases origin with
  | approval => exact now
  | execution => exact ⟨_, now, rfl⟩
  | redrive exhausted => exact ⟨_, now, rfl⟩

/-- An acknowledged update, or one that may go unacknowledged, leaves the loop with a
row to work on. -/
theorem loop_rests (rests : Role.Rests lost before (.executing key)) (loop : LoopUpdates updates status)
    (served : before.serves ⟨.updateTrigger key updates, answer⟩ after)
    (kept : acknowledged = false → updates.status = some .submitted →
      lost = true ∨ after.lookup key = before.lookup key) :
    (Role.wrote (.executing key) key updates acknowledged).Rests lost after := by
  obtain ⟨now, known, working⟩ := rests
  unfold Role.wrote
  dsimp only
  split
  · rename_i continues
    rcases status_of_updateTrigger served loop.writes with same | ⟨_, _, same⟩
    · exact ⟨now, same ▸ known, working⟩
    · have written : after.status key = some status := by rw [same, update_self]
      rw [loop.writes] at continues kept
      rcases continues with writes | ⟨writes, unacknowledged⟩ | ⟨writes, _⟩
      · cases writes
        exact ⟨_, written, rfl⟩
      · rcases kept unacknowledged writes with rfl | same
        · cases writes
          exact ⟨_, written, rfl⟩
        · exact ⟨now, by rw [Table.status, same]; exact known, working⟩
      · cases writes
        exact ⟨_, written, rfl⟩
  · trivial

private theorem update_rests (rests : role.Rests lost before)
    (permitted : role.permits manual (.updateTrigger key updates))
    (served : before.serves ⟨.updateTrigger key updates, answer⟩ after)
    (kept : Unshared lost before ⟨.updateTrigger key updates, answer⟩ after) :
    (role.after (.updateTrigger key updates) answer).Rests lost after := by
  cases role <;> try exact permitted.elim
  case redriving exhausted => cases answer <;> trivial
  case gating row own => cases answer <;> trivial
  case executing row =>
    obtain ⟨rfl, status, loop⟩ := permitted
    cases answer with
    | ok value => exact loop_rests rests loop served (by simp)
    | error error => exact loop_rests rests loop served fun _ submits => kept submits
  case polling keys =>
    have continues (acknowledged : Bool) :
        (Role.wrote (.polling keys) key updates acknowledged).Rests lost after := by
      unfold Role.wrote
      dsimp only
      split <;> trivial
    cases answer with
    | ok value => exact continues true
    | error error => exact continues false

/-- What the role of the call that was answered rests on. -/
theorem Holding.self_rests (holding : Holding lost before cast) (assigned : cast pid = some role)
    (permitted : role.permits manual event.effect) (served : before.serves event after)
    (kept : Unshared lost before event after) :
    (role.after event.effect event.answer).Rests lost after := by
  have rests := holding.rests pid role assigned
  obtain ⟨effect, answer⟩ := event
  have unchanged (reads : effect.writes = false) : role.Rests lost after := by
    rw [serves_read served reads]
    exact rests
  cases effect
  case getLatestTriggerByActionKey actionKey =>
    cases answer with
    | error error => trivial
    | ok latest =>
      obtain ⟨same, found⟩ := served
      cases role <;> try exact permitted.elim
      case conflicting origin => exact rests.elim
      case asking request =>
        cases latest with
        | none => trivial
        | some latest =>
          unfold Role.after Role.read
          dsimp only
          split
          · rename_i redrives
            left
            rw [same]
            exact status_eq_some.mpr ⟨latest, Table.lookup_of_mem (found _ rfl).1, redrives.2⟩
          · trivial
  case insertTrigger origin data =>
    have pending : data.status = .pending := by
      cases role <;> first | exact permitted.2.status | exact permitted.elim
    rcases insert_served served with ⟨createdAt, _, same, rfl | ⟨error, rfl, other⟩⟩ | ⟨_, error, rfl⟩
    · apply inserted_rests
      rw [status_of_update same]
      exact (update_self _ _ _).trans (congrArg some pending)
    · simp only [Role.after, if_neg other]
      trivial
    · have other : error.code ≠ uniqueViolation := kept
      simp only [Role.after, if_neg other]
      trivial
  case updateTrigger key updates => exact update_rests rests permitted served kept
  case approveTrigger key actor =>
    rcases answer with error | (none | row)
    · trivial
    · trivial
    · rcases approve_served served with ⟨old, found, _, same, answered⟩ | ⟨_, answered⟩
      · have returned : row = old.approve actor := by simpa using answered
        subst returned
        refine ⟨.pending, ?_, rfl⟩
        rw [status_of_update same]
        exact (congrArg (update before.status key (some .pending))
          (Table.lookup_eq_some found).2).trans (update_self _ _ _)
      · simp at answered
  case rejectTrigger key actor reason => rcases answer with error | (none | row) <;> trivial
  case getTriggersByStatus status limit => cases answer <;> trivial
  all_goals exact unchanged rfl

/-- Nobody comes to hold a row that another call holds. -/
theorem Holding.no_second_holder (holding : Holding lost before cast) (assigned : cast pid = some role)
    (served : before.serves ⟨effect, answer⟩ after)
    (different : other ≠ pid) (playing : cast other = some role') (holds : role'.holds = some key) :
    (role.after effect answer).holds ≠ some key := by
  intro own
  obtain ⟨old, found, working⟩ := holding.held playing holds
  rcases holds_after served own with already | fresh | awaits | ⟨origin, conflict⟩
  · exact different (holding.alone _ _ _ _ key playing assigned holds already)
  · rw [found] at fresh
    cases fresh
  · simp only [Table.status, found, Option.map_some, Option.some.injEq] at awaits
    rw [awaits] at working
    cases working
  · have rests := holding.rests pid role assigned
    rw [conflict] at rests
    exact rests

theorem Holding.perform (holding : Holding lost before cast) (assigned : cast pid = some role)
    (polled : Polled lost before role) (permitted : role.permits manual event.effect)
    (served : before.serves event after) (kept : Unshared lost before event after) :
    Holding lost after (update cast pid (some (role.after event.effect event.answer))) where
  rests other role' playing := by
    rcases update_assigned playing with ⟨rfl, rfl⟩ | ⟨different, playing⟩
    · exact holding.self_rests assigned permitted served kept
    · exact holding.others_rest assigned
        (fun key old found => holding.advances assigned polled permitted served found) different playing
  alone first second role₁ role₂ key playing₁ playing₂ holds₁ holds₂ := by
    rcases update_assigned playing₁ with ⟨rfl, rfl⟩ | ⟨different₁, played₁⟩
    · rcases update_assigned playing₂ with ⟨rfl, _⟩ | ⟨different₂, played₂⟩
      · rfl
      · exact absurd holds₁ (holding.no_second_holder assigned served different₂ played₂ holds₂)
    · rcases update_assigned playing₂ with ⟨rfl, rfl⟩ | ⟨_, played₂⟩
      · exact absurd holds₂ (holding.no_second_holder assigned served different₁ played₁ holds₁)
      · exact holding.alone _ _ _ _ key played₁ played₂ holds₁ holds₂

theorem Holding.start (holding : Holding lost before cast) (call : Call) :
    Holding lost before (update cast pid (some call.role)) where
  rests other role' playing := by
    rcases update_assigned playing with ⟨rfl, rfl⟩ | ⟨_, playing⟩
    · cases call <;> trivial
    · exact holding.rests other role' playing
  alone first second role₁ role₂ key playing₁ playing₂ holds₁ holds₂ := by
    have plain : call.role.holds = none := by cases call <;> rfl
    rcases update_assigned playing₁ with ⟨_, rfl⟩ | ⟨_, played₁⟩
    · rw [plain] at holds₁
      cases holds₁
    · rcases update_assigned playing₂ with ⟨_, rfl⟩ | ⟨_, played₂⟩
      · rw [plain] at holds₂
        cases holds₂
      · exact holding.alone _ _ _ _ key played₁ played₂ holds₁ holds₂

theorem Holding.initial (table : Table) : Holding lost table fun _ => none where
  rests _ _ assigned := by cases assigned
  alone _ _ _ _ _ assigned := by cases assigned

end Holding

end Agroasys.Oracle
