import Agroasys.Oracle.Bench

namespace Agroasys.Oracle

open Function Agroasys.Foundation

variable {κ : Type}

/-- `approveTrigger` succeeded on the row. -/
def Approved (history : ServiceHistory κ) (key : String) : Prop :=
  ∃ pid actor row, Performed history pid ⟨.approveTrigger key actor, .ok (some row)⟩

/-- `handleRedrive` created the row from one it had read as exhausted. -/
def Redriven (history : ServiceHistory κ) (key : String) : Prop :=
  ∃ pid actionKey exhausted data row, exhausted.status = .exhaustedNeedsRedrive ∧
    Performed history pid ⟨.getLatestTriggerByActionKey actionKey, .ok (some exhausted)⟩ ∧
    Performed history pid ⟨.insertTrigger (.redrive exhausted) data, .ok row⟩ ∧
    row.idempotencyKey = key

/-- A transaction is sent for the row. -/
def Sends (entry : ServiceEntry κ) (key : String) : Prop :=
  ∃ pid triggerType tradeId answer,
    entry.label = .perform pid ⟨.sendTransaction key triggerType tradeId, answer⟩

/-- `rejectTrigger` moves the row to `REJECTED`. -/
structure Rejects (entry : ServiceEntry κ) (key : String) : Prop where
  decided : ∃ pid actor reason answer,
    entry.label = .perform pid ⟨.rejectTrigger key actor reason, answer⟩
  awaited : entry.before.world.table.status key = some .pendingApproval
  rejected : entry.after.world.table.status key = some .rejected

/-- The steps that leave the human decision binding: no re-drive request inserts a
row of its own, no insert of `handleRedrive` is refused, and a call whose insert was
refused finds the row it reuses still awaiting its approval. -/
def GateKept (earlier : ServiceHistory κ) (entry : ServiceEntry κ) : Prop :=
  match entry.label with
  | .perform pid ⟨.insertTrigger .execution _, _⟩ =>
    ∀ request, Started earlier pid (.executeTrigger request) → request.isRedrive = false
  | .perform _ ⟨.insertTrigger (.redrive _) _, .error error⟩ => error.code ≠ uniqueViolation
  | .perform pid ⟨.updateTrigger key updates, _⟩ =>
    updates.status = some .pendingApproval → Refused earlier pid →
      entry.before.world.table.status key = some .pendingApproval
  | _ => True

/-- Past the decision: neither awaiting one nor rejected, and no call is about to
write `PENDING_APPROVAL` on it. -/
structure Decided (table : Table) (cast : Nat → Option Role) (key : String) : Prop where
  status : ∃ status, table.status key = some status ∧ status ≠ .pendingApproval ∧ status ≠ .rejected
  ungated : ∀ pid, cast pid ≠ some (.gating key true)

/-- The change a call makes to a row's status. -/
inductive Turn (table : Table) (cast : Nat → Option Role) (pid : Nat) (key : String) :
    TriggerStatus → TriggerStatus → Prop where
  | stays (status) : Turn table cast pid key status status
  | works (decided : Decided table cast key) (waits : after ≠ .pendingApproval)
      (stands : after ≠ .rejected) : Turn table cast pid key before after
  | gates (gating : cast pid = some (.gating key true)) :
      Turn table cast pid key .pending .pendingApproval
  | decides : Turn table cast pid key .pendingApproval after

/-- What a role rests on. -/
def Role.Backed (history : ServiceHistory κ) (table : Table) (cast : Nat → Option Role) (pid : Nat) :
    Role → Prop
  | .asking request => Started history pid (.executeTrigger request)
  | .redriving exhausted => exhausted.status = .exhaustedNeedsRedrive ∧
      Decided table cast exhausted.idempotencyKey ∧ ∃ actionKey,
        Performed history pid ⟨.getLatestTriggerByActionKey actionKey, .ok (some exhausted)⟩
  | .conflicting origin => origin = .approval ∧ Refused history pid
  | .gating key true => table.status key = some .pending
  | .gating _ false => Refused history pid
  | .executing key => (Approved history key ∨ Redriven history key) ∧ Decided table cast key
  | .polling keys => ∀ key ∈ keys, Decided table cast key
  | _ => True

structure Gate (history : ServiceHistory κ) (pool : ServicePool κ) (cast : Nat → Option Role) : Prop where
  backed : ∀ pid role, cast pid = some role → role.Backed history pool.world.table cast pid
  single : ∀ pid pid' key, cast pid = some (.gating key true) → cast pid' = some (.gating key true) →
    pid = pid'
  sent : ∀ entry ∈ history, ∀ key, Sends entry key → Decided pool.world.table cast key
  authorised : Throughout
    (fun earlier entry => ∀ key, Sends entry key → Approved earlier key ∨ Redriven earlier key) history
  rejected : ∀ entry ∈ history, ∀ key, Rejects entry key →
    pool.world.table.status key = some .rejected

/-- One step of the service, as far as the gate is concerned. -/
structure Evolves (table : Table) (cast : Nat → Option Role) (pid : Nat) (next : Table)
    (recast : Nat → Option Role) : Prop where
  turns : ∀ key before, table.status key = some before →
    ∃ after, next.status key = some after ∧ Turn table cast pid key before after
  gated : ∀ other key, recast other = some (.gating key true) →
    cast other = some (.gating key true) ∨ table.status key = none

section Evolves

variable {table next : Table} {cast recast : Nat → Option Role}

theorem Decided.evolves (evolves : Evolves table cast pid next recast)
    (decided : Decided table cast key) : Decided next recast key := by
  obtain ⟨⟨before, found, waits, stands⟩, ungated⟩ := decided
  refine ⟨?_, ?_⟩
  · obtain ⟨after, now, turn⟩ := evolves.turns key before found
    refine ⟨after, now, ?_⟩
    cases turn with
    | stays => exact ⟨waits, stands⟩
    | works _ waits stands => exact ⟨waits, stands⟩
    | gates gating => exact absurd gating (ungated pid)
    | decides => exact absurd rfl waits
  · intro other gating
    rcases evolves.gated other key gating with before | fresh
    · exact ungated other before
    · simp [fresh] at found

private theorem rejected_evolves (evolves : Evolves table cast pid next recast)
    (rejected : table.status key = some .rejected) : next.status key = some .rejected := by
  obtain ⟨after, now, turn⟩ := evolves.turns key _ rejected
  cases turn with
  | stays => exact now
  | works decided _ _ =>
    obtain ⟨status, found, _, stands⟩ := decided.status
    rw [rejected, Option.some.injEq] at found
    exact absurd found.symm stands

/-- A row that waits to be gated is left alone by the other calls. -/
theorem pending_evolves (evolves : Evolves table cast pid next recast)
    (single : ∀ pid pid' key, cast pid = some (.gating key true) →
      cast pid' = some (.gating key true) → pid = pid')
    (gating : cast other = some (.gating key true)) (different : other ≠ pid)
    (pending : table.status key = some .pending) : next.status key = some .pending := by
  obtain ⟨after, now, turn⟩ := evolves.turns key _ pending
  cases turn with
  | stays => exact now
  | works decided _ _ => exact absurd gating (decided.ungated other)
  | gates taken => exact absurd (single _ _ key gating taken) different

end Evolves

section Steps

variable {before after : Table}

/-- The only way to wait for the gate with a row is to insert it. -/
theorem after_gating {role : Role} (served : before.serves ⟨effect, answer⟩ after)
    (gating : role.after effect answer = .gating key true) :
    role = .gating key true ∨ before.lookup key = none := by
  have reading (latest : Option Trigger) (read : role.read latest = .gating key true) :
      role = .gating key true := by
    cases role <;> cases latest <;> simp only [Role.read] at read
    all_goals first | exact read | (split at read <;> cases read) | cases read | skip
    rename_i origin existing
    cases origin <;> simp [Origin.role] at read
  have writing (acknowledged : Bool) (key' : String) (updates : UpdateTriggerData)
      (wrote : role.wrote key' updates acknowledged = .gating key true) : False := by
    cases role <;> simp only [Role.wrote] at wrote
    all_goals first | cases wrote | (split at wrote <;> cases wrote)
  cases effect
  case insertTrigger origin data =>
    rcases insert_served served with ⟨createdAt, fresh, _, rfl | ⟨error, rfl, other⟩⟩ | ⟨_, error, rfl⟩
    · right
      cases origin with
      | approval =>
        simp only [Role.after, Origin.role, Role.gating.injEq, and_true] at gating
        exact gating ▸ fresh
      | execution => cases gating
      | redrive exhausted => cases gating
    · simp [Role.after, other] at gating
    · simp only [Role.after] at gating
      split at gating <;> cases gating
  case getLatestTriggerByActionKey actionKey =>
    cases answer with
    | ok latest => exact .inl (reading latest gating)
    | error error => cases gating
  case updateTrigger key' updates =>
    cases answer with
    | ok value => exact (writing _ _ _ gating).elim
    | error error => exact (writing _ _ _ gating).elim
  case approveTrigger key' actor =>
    rcases answer with error | (none | row) <;> cases gating
  case rejectTrigger key' actor reason =>
    rcases answer with error | (none | row) <;> cases gating
  case getTriggersByStatus status limit =>
    cases answer <;> cases gating
  all_goals exact .inl gating

/-- All rows turn if the one row that changes does. -/
theorem turns_of_update {cast : Nat → Option Role}
    (same : after.status = before.status ∨
      ∃ old, before.status key = some old ∧ after.status = update before.status key (some status))
    (turn : ∀ old, before.status key = some old → Turn before cast pid key old status) :
    ∀ other old, before.status other = some old →
      ∃ new, after.status other = some new ∧ Turn before cast pid other old new := by
  intro other old found
  rcases same with same | ⟨_, _, same⟩
  · exact ⟨old, same ▸ found, .stays old⟩
  · by_cases equal : other = key
    · subst equal
      exact ⟨status, by rw [same, update_self], turn old found⟩
    · exact ⟨old, by rw [same, update_of_ne equal, found], .stays old⟩

private theorem turns_of_decision {cast : Nat → Option Role} {decided : Trigger → Trigger}
    {answered : Trigger → Prop}
    (decision : (∃ row, before.lookup key = some row ∧ row.status = .pendingApproval ∧
        after.lookup = update before.lookup key (some (decided row)) ∧ answered row) ∨
      (after.lookup = before.lookup ∧ unanswered)) :
    ∀ other old, before.status other = some old →
      ∃ new, after.status other = some new ∧ Turn before cast pid other old new := by
  rcases decision with ⟨row, found, awaits, same, _⟩ | ⟨same, _⟩
  · have waiting : before.status key = some .pendingApproval := by
      simp [Table.status, found, awaits]
    apply turns_of_update (.inr ⟨_, waiting, status_of_update same⟩)
    intro old now
    rw [waiting, Option.some.injEq] at now
    subst now
    exact .decides
  · intro other old found
    exact ⟨old, status_of_lookup same ▸ found, .stays old⟩

end Steps

section Gate

variable {history : ServiceHistory κ} {pool next : ServicePool κ} {cast : Nat → Option Role}

private theorem gate_turns (gate : Gate history pool cast) (assigned : cast pid = some role)
    (permitted : role.permits manual event.effect)
    (kept : GateKept history ⟨pool, .perform pid event, next⟩)
    (served : pool.world.table.serves event next.world.table) :
    ∀ key old, pool.world.table.status key = some old →
      ∃ new, next.world.table.status key = some new ∧ Turn pool.world.table cast pid key old new := by
  have backed := gate.backed pid role assigned
  obtain ⟨effect, answer⟩ := event
  cases effect
  case insertTrigger origin data =>
    intro key old found
    rcases insert_served served with ⟨createdAt, fresh, same, _⟩ | ⟨same, _⟩
    · have different : key ≠ data.idempotencyKey := by
        intro equal
        simp [equal, Table.status, fresh] at found
      exact ⟨old, by rw [status_of_update same, update_of_ne different, found], .stays old⟩
    · exact ⟨old, by rw [same, found], .stays old⟩
  case updateTrigger key updates =>
    cases role <;> try exact permitted.elim
    case redriving exhausted =>
      obtain ⟨rfl, rfl⟩ := permitted
      apply turns_of_update (status_of_updateTrigger served rfl)
      intro old _
      exact .works backed.2.1 (by simp) (by simp)
    case gating row own =>
      obtain ⟨rfl, rfl⟩ := permitted
      apply turns_of_update (status_of_updateTrigger served rfl)
      intro old found
      cases own with
      | true =>
        have pending : pool.world.table.status key = some .pending := backed
        rw [pending, Option.some.injEq] at found
        subst found
        exact .gates assigned
      | false =>
        have waiting := kept rfl backed
        rw [waiting, Option.some.injEq] at found
        subst found
        exact .decides
    case executing row =>
      obtain ⟨rfl, status, loop⟩ := permitted
      apply turns_of_update (status_of_updateTrigger served loop.writes)
      intro old _
      refine .works backed.2 ?_ ?_
      · rintro rfl
        exact absurd loop.ofLoop (by decide)
      · rintro rfl
        exact absurd loop.ofLoop (by decide)
    case polling keys =>
      obtain ⟨member, worker⟩ := permitted
      have decided := backed key member
      cases worker with
      | verified =>
        exact turns_of_update (status_of_updateTrigger served rfl)
          fun _ _ => .works decided (by simp) (by simp)
      | indexed event =>
        exact turns_of_update (status_of_updateTrigger served rfl)
          fun _ _ => .works decided (by simp) (by simp)
      | timeout elapsed =>
        exact turns_of_update (status_of_updateTrigger served rfl)
          fun _ _ => .works decided (by simp) (by simp)
  case approveTrigger key actor => exact turns_of_decision (approve_served served)
  case rejectTrigger key actor reason => exact turns_of_decision (reject_served served)
  all_goals
    intro key old found
    exact ⟨old, serves_read served rfl ▸ found, .stays old⟩

private theorem gate_evolves (gate : Gate history pool cast) (assigned : cast pid = some role)
    (permitted : role.permits manual event.effect)
    (kept : GateKept history ⟨pool, .perform pid event, next⟩)
    (served : pool.world.table.serves event next.world.table) :
    Evolves pool.world.table cast pid next.world.table
      (update cast pid (some (role.after event.effect event.answer))) where
  turns := gate_turns gate assigned permitted kept served
  gated other key gating := by
    by_cases same : other = pid
    · subst same
      rw [update_self, Option.some.injEq] at gating
      rcases after_gating served gating with already | fresh
      · exact .inl (assigned.trans (congrArg some already))
      · exact .inr (by simp [Table.status, fresh])
    · rw [update_of_ne same] at gating
      exact .inl gating

/-- A row in any status but `PENDING` is not about to be gated. -/
theorem Gate.ungated (gate : Gate history pool cast)
    (found : pool.world.table.status key = some status) (other : status ≠ .pending) (pid : Nat) :
    cast pid ≠ some (.gating key true) := by
  intro gating
  have pending : pool.world.table.status key = some .pending := gate.backed pid _ gating
  rw [found, Option.some.injEq] at pending
  exact other pending

/-- A role that does not change rests on what it rested on. -/
theorem Backed.evolves {table after : Table} {cast recast : Nat → Option Role}
    (evolves : Evolves table cast pid after recast)
    (single : ∀ pid pid' key, cast pid = some (.gating key true) →
      cast pid' = some (.gating key true) → pid = pid')
    (assigned : cast other = some role)
    (quiet : other ≠ pid ∨ after = table ∨ ∀ key own, role ≠ .gating key own)
    (backed : role.Backed history table cast other) (entry : ServiceEntry κ) :
    role.Backed (entry :: history) after recast other := by
  cases role with
  | asking request => exact Started.later backed entry
  | redriving exhausted =>
    obtain ⟨status, decided, actionKey, read⟩ := backed
    exact ⟨status, decided.evolves evolves, actionKey, read.later entry⟩
  | conflicting origin => exact ⟨backed.1, backed.2.later entry⟩
  | gating key own =>
    cases own with
    | true =>
      rcases quiet with different | same | ungated
      · exact pending_evolves evolves single assigned different backed
      · exact same ▸ backed
      · exact absurd rfl (ungated key true)
    | false => exact Refused.later backed entry
  | executing key =>
    refine ⟨backed.1.imp ?_ ?_, backed.2.evolves evolves⟩
    · intro approved
      obtain ⟨pid, actor, row, performed⟩ := approved
      exact ⟨pid, actor, row, performed.later entry⟩
    · intro redriven
      obtain ⟨pid, actionKey, exhausted, data, row, status, read, inserted, keyed⟩ := redriven
      exact ⟨pid, actionKey, exhausted, data, row, status, read.later entry, inserted.later entry, keyed⟩
  | polling keys => exact fun key member => (backed key member).evolves evolves
  | _ => trivial

section Roles

variable {entry : ServiceEntry κ} {recast : Nat → Option Role}

private theorem read_backed (gate : Gate history pool cast) (assigned : cast pid = some role)
    (evolves : Evolves pool.world.table cast pid pool.world.table recast)
    (label : entry.label = .perform pid ⟨.getLatestTriggerByActionKey actionKey, .ok latest⟩)
    (found : pool.world.table.Latest actionKey latest) :
    (role.read latest).Backed (entry :: history) pool.world.table recast pid := by
  have backed := gate.backed pid role assigned
  have kept := Backed.evolves evolves gate.single assigned (.inr (.inl rfl)) backed entry
  cases role with
  | asking request =>
    cases latest with
    | none => exact kept
    | some latest =>
      unfold Role.read
      dsimp only
      split
      · rename_i redrives
        have status : pool.world.table.status latest.idempotencyKey = some .exhaustedNeedsRedrive := by
          simp [Table.status, Table.lookup_of_mem found.1, redrives.2]
        have decided : Decided pool.world.table cast latest.idempotencyKey :=
          ⟨⟨_, status, by simp, by simp⟩, gate.ungated status (by simp)⟩
        exact ⟨redrives.2, decided.evolves evolves, actionKey, .head label⟩
      · exact kept
  | conflicting origin =>
    obtain ⟨rfl, refused⟩ := backed
    cases latest with
    | none => trivial
    | some existing => exact refused.later entry
  | _ => exact kept

private theorem insert_backed (gate : Gate history pool cast) (assigned : cast pid = some role)
    (permitted : role.permits true (.insertTrigger origin data))
    (kept : GateKept history ⟨pool, .perform pid ⟨.insertTrigger origin data, answer⟩, next⟩)
    (served : pool.world.table.serves ⟨.insertTrigger origin data, answer⟩ next.world.table)
    (recasts : recast = update cast pid (some (role.after (.insertTrigger origin data) answer)))
    (label : entry.label = .perform pid ⟨.insertTrigger origin data, answer⟩) :
    (role.after (.insertTrigger origin data) answer).Backed (entry :: history) next.world.table recast
      pid := by
  have backed := gate.backed pid role assigned
  -- Under manual approval only a re-drive request would insert a row to execute.
  have approval (request : TriggerRequest) (asking : role = .asking request) : origin = .approval := by
    subst asking
    obtain ⟨chosen, _⟩ := permitted
    unfold chosenOrigin at chosen
    split at chosen
    · exact chosen
    · rename_i redrives
      subst chosen
      have plain := kept request backed
      exact absurd ⟨rfl, plain⟩ redrives
  have pending : data.status = .pending := by
    cases role <;> first | exact permitted.2.status | exact permitted.elim
  rcases insert_served served with ⟨createdAt, fresh, same, rfl | ⟨error, rfl, other⟩⟩ | ⟨same, error, rfl⟩
  · have inserted : next.world.table.status data.idempotencyKey = some .pending := by
      rw [status_of_update same, update_self]
      exact congrArg some pending
    cases role <;> try exact permitted.elim
    case asking request =>
      obtain rfl := approval request rfl
      exact inserted
    case redriving exhausted =>
      obtain ⟨rfl, _⟩ := permitted
      obtain ⟨status, _, actionKey, read⟩ := backed
      refine ⟨.inr ⟨pid, actionKey, exhausted, data, _, status, read.later entry, .head label, rfl⟩,
        ⟨_, inserted, by simp, by simp⟩, ?_⟩
      intro pid' gating
      rw [recasts] at gating
      by_cases self : pid' = pid
      · subst self
        simp [Role.after, Origin.role] at gating
      · rw [update_of_ne self] at gating
        have waiting : pool.world.table.status _ = some .pending := gate.backed pid' _ gating
        change pool.world.table.lookup data.idempotencyKey = none at fresh
        rw [Table.status, show (data.row createdAt).idempotencyKey = data.idempotencyKey from rfl,
          fresh] at waiting
        cases waiting
  · simp only [Role.after, if_neg other]
    trivial
  · by_cases unique : error.code = uniqueViolation
    · simp only [Role.after, if_pos unique]
      cases role <;> try exact permitted.elim
      case asking request =>
        exact ⟨approval request rfl, origin, data, error, unique, .head label⟩
      case redriving exhausted =>
        obtain ⟨rfl, _⟩ := permitted
        exact absurd unique kept
    · simp only [Role.after, if_neg unique]
      trivial

private theorem update_backed (gate : Gate history pool cast) (assigned : cast pid = some role)
    (different : ∀ key own, role ≠ .gating key own)
    (evolves : Evolves pool.world.table cast pid next.world.table recast) (acknowledged : Bool) :
    (role.wrote key updates acknowledged).Backed (entry :: history) next.world.table recast pid := by
  have kept := Backed.evolves evolves gate.single assigned (.inr (.inr different))
    (gate.backed pid role assigned) entry
  cases role with
  | executing row =>
    unfold Role.wrote
    dsimp only
    split
    · exact kept
    · trivial
  | polling keys =>
    unfold Role.wrote
    dsimp only
    split
    · exact kept
    · exact fun key member => kept key (List.mem_of_mem_erase member)
  | gating key own => exact absurd rfl (different key own)
  | _ => trivial

private theorem approve_backed (gate : Gate history pool cast)
    (served : pool.world.table.serves ⟨.approveTrigger key actor, .ok (some row)⟩ next.world.table)
    (recasts : recast = update cast pid (some (.executing row.idempotencyKey)))
    (label : entry.label = .perform pid ⟨.approveTrigger key actor, .ok (some row)⟩) :
    Role.Backed (entry :: history) next.world.table recast pid (.executing row.idempotencyKey) := by
  rcases approve_served served with ⟨old, found, awaits, same, answered⟩ | ⟨_, answered⟩
  · have returned : row = old.approve actor := by simpa using answered
    have keyed : row.idempotencyKey = key := by
      rw [returned]
      exact (Table.lookup_eq_some found).2
    have waiting : pool.world.table.status key = some .pendingApproval := by
      simp [Table.status, found, awaits]
    have approved : next.world.table.status key = some .pending := by
      rw [status_of_update same, update_self]
      rfl
    rw [keyed] at recasts ⊢
    refine ⟨.inl ⟨pid, actor, row, .head label⟩, ⟨_, approved, by simp, by simp⟩, ?_⟩
    intro pid' gating
    rw [recasts] at gating
    by_cases self : pid' = pid
    · subst self
      simp at gating
    · rw [update_of_ne self] at gating
      exact gate.ungated waiting (by simp) pid' gating
  · simp at answered

private theorem fetch_backed (gate : Gate history pool cast)
    (evolves : Evolves pool.world.table cast pid pool.world.table recast)
    (selected : pool.world.table.Oldest .submitted limit rows) :
    Role.Backed (entry :: history) pool.world.table recast pid
      (.polling (rows.map Trigger.idempotencyKey)) := by
  intro key member
  obtain ⟨row, fetched, rfl⟩ := List.mem_map.mp member
  obtain ⟨present, submitted⟩ := selected.selected row fetched
  have status : pool.world.table.status row.idempotencyKey = some .submitted := by
    simp [Table.status, Table.lookup_of_mem present, submitted]
  have decided : Decided pool.world.table cast row.idempotencyKey :=
    ⟨⟨_, status, by simp, by simp⟩, gate.ungated status (by simp)⟩
  exact decided.evolves evolves

private theorem after_backed (gate : Gate history pool cast) (assigned : cast pid = some role)
    (permitted : role.permits true event.effect)
    (kept : GateKept history ⟨pool, .perform pid event, next⟩)
    (served : pool.world.table.serves event next.world.table)
    (recasts : recast = update cast pid (some (role.after event.effect event.answer)))
    (label : entry.label = .perform pid event) :
    (role.after event.effect event.answer).Backed (entry :: history) next.world.table recast pid := by
  have evolves := gate_evolves gate assigned permitted kept served
  rw [← recasts] at evolves
  have unchanged (reads : event.effect.writes = false) :
      role.Backed (entry :: history) next.world.table recast pid :=
    Backed.evolves evolves gate.single assigned (.inr (.inl (serves_read served reads)))
      (gate.backed pid role assigned) entry
  obtain ⟨effect, answer⟩ := event
  cases effect
  case getLatestTriggerByActionKey actionKey =>
    cases answer with
    | error error => trivial
    | ok latest =>
      obtain ⟨same, found⟩ := served
      rw [same] at evolves ⊢
      exact read_backed gate assigned evolves label (found latest rfl)
  case insertTrigger origin data =>
    exact insert_backed gate assigned permitted kept served recasts label
  case updateTrigger key updates =>
    by_cases gating : ∃ row own, role = .gating row own
    · obtain ⟨row, own, rfl⟩ := gating
      cases answer <;> trivial
    · have different : ∀ row own, role ≠ .gating row own :=
        fun row own same => gating ⟨row, own, same⟩
      cases answer with
      | ok value => exact update_backed gate assigned different evolves true
      | error error => exact update_backed gate assigned different evolves false
  case approveTrigger key actor =>
    rcases answer with error | (none | row)
    · trivial
    · trivial
    · exact approve_backed gate served recasts label
  case rejectTrigger key actor reason => rcases answer with error | (none | row) <;> trivial
  case getTriggersByStatus status limit =>
    cases answer with
    | error error => trivial
    | ok rows =>
      cases role <;> try exact permitted.elim
      obtain rfl := permitted
      obtain ⟨same, found⟩ := served
      rw [same] at evolves ⊢
      exact fetch_backed gate evolves (found rows rfl)
  all_goals exact unchanged rfl

end Roles

/-- The invariant over one step: the role of one call changes, and what it rests on is
shown anew. -/
theorem Gate.step {entry : ServiceEntry κ} {recast : Nat → Option Role} (pid : Nat)
    (gate : Gate history pool cast)
    (evolves : Evolves pool.world.table cast pid next.world.table recast)
    (others : ∀ other, other ≠ pid → recast other = cast other)
    (self : ∀ role, recast pid = some role →
      role.Backed (entry :: history) next.world.table recast pid)
    (sends : ∀ key, Sends entry key →
      Decided pool.world.table cast key ∧ (Approved history key ∨ Redriven history key))
    (rejects : ∀ key, Rejects entry key → next.world.table.status key = some .rejected) :
    Gate (entry :: history) next recast where
  backed other role assigned := by
    by_cases same : other = pid
    · subst same
      exact self role assigned
    · rw [others other same] at assigned
      exact Backed.evolves evolves gate.single assigned (.inl same) (gate.backed other role assigned) entry
  single first second key one two := by
    have known (other : Nat) (gating : cast other = some (.gating key true)) :
        pool.world.table.status key = some .pending := gate.backed other _ gating
    have newcomer (other : Nat) (gating : recast other = some (.gating key true))
        (unknown : pool.world.table.status key = none) : other = pid := by
      by_contra different
      rw [others other different] at gating
      simp [known other gating] at unknown
    rcases evolves.gated first key one with before | unknown
    · rcases evolves.gated second key two with after | unknown
      · exact gate.single first second key before after
      · simp [known first before] at unknown
    · rw [newcomer first one unknown, newcomer second two unknown]
  sent earlier member key sent := by
    rcases List.mem_cons.mp member with rfl | member
    · exact (sends key sent).1.evolves evolves
    · exact (gate.sent earlier member key sent).evolves evolves
  authorised later entry' earlier same key sent := by
    cases later with
    | nil =>
      obtain ⟨rfl, rfl⟩ := List.cons.inj same
      exact (sends key sent).2
    | cons head later =>
      obtain ⟨_, rest⟩ := List.cons.inj same
      exact gate.authorised later entry' earlier rest key sent
  rejected earlier member key rejected := by
    rcases List.mem_cons.mp member with rfl | member
    · exact rejects key rejected
    · exact rejected_evolves evolves (gate.rejected earlier member key rejected)

private theorem gate_start (gate : Gate history pool cast) (call : Call) :
    Gate (⟨pool, .start pid call, { pool with running := running }⟩ :: history)
      { pool with running := running } (update cast pid (some call.role)) := by
  have plain : ∀ key, call.role ≠ .gating key true := by cases call <;> simp [Call.role]
  apply Gate.step pid gate
  · refine ⟨fun key old found => ⟨old, found, .stays old⟩, ?_⟩
    intro other key gating
    by_cases same : other = pid
    · subst same
      simp [plain] at gating
    · rw [update_of_ne same] at gating
      exact .inl gating
  · intro other different
    exact update_of_ne different _ _
  · intro role assigned
    rw [update_self, Option.some.injEq] at assigned
    subst assigned
    cases call with
    | executeTrigger request => exact ⟨_, List.mem_cons_self, rfl⟩
    | _ => trivial
  · intro key sends
    obtain ⟨_, _, _, _, sent⟩ := sends
    cases sent
  · intro key rejects
    exact rejects.rejected

private theorem gate_perform (gate : Gate history pool cast) (assigned : cast pid = some role)
    (permitted : role.permits true event.effect)
    (kept : GateKept history ⟨pool, .perform pid event, next⟩)
    (served : pool.world.table.serves event next.world.table) :
    Gate (⟨pool, .perform pid event, next⟩ :: history) next
      (update cast pid (some (role.after event.effect event.answer))) := by
  apply Gate.step pid gate (gate_evolves gate assigned permitted kept served)
  · intro other different
    exact update_of_ne different _ _
  · intro role' same
    rw [update_self, Option.some.injEq] at same
    subst same
    exact after_backed gate assigned permitted kept served rfl rfl
  · intro key sends
    obtain ⟨_, triggerType, tradeId, answer, sent⟩ := sends
    cases sent
    cases role <;> try exact permitted.elim
    obtain rfl := permitted
    exact (gate.backed _ _ assigned).symm
  · intro key rejects
    exact rejects.rejected

private theorem gate_drift (gate : Gate history pool cast)
    (same : next.world.table = pool.world.table) : Gate (⟨pool, .drift, next⟩ :: history) next cast := by
  apply Gate.step 0 gate
  · exact ⟨fun key old found => ⟨old, same ▸ found, .stays old⟩, fun _ _ => .inl⟩
  · intro _ _
    rfl
  · intro role assigned
    have evolves : Evolves pool.world.table cast 0 pool.world.table cast :=
      ⟨fun key old found => ⟨old, found, .stays old⟩, fun _ _ => .inl⟩
    rw [same]
    exact Backed.evolves evolves gate.single assigned (.inr (.inl rfl)) (gate.backed 0 role assigned) _
  · intro key sends
    obtain ⟨_, _, _, _, sent⟩ := sends
    cases sent
  · intro key rejects
    exact rejects.rejected

end Gate

private theorem run_gate {settings : Settings} {outside : Outside κ}
    (manual : settings.manualApprovalEnabled = true)
    (run : (service settings outside).system.Run history pool) (kept : Throughout GateKept history) :
    ∃ cast, Gate history pool cast := by
  have follows := service_follows settings outside
  rw [manual] at follows
  obtain ⟨cast, _, gate⟩ := Server.run_roles Gate follows
    (by
      intro pool _
      constructor
      · intro _ _ assigned
        cases assigned
      · intro _ _ _ gating
        cases gating
      · intro _ member
        cases member
      · intro later _ _ same
        cases later <;> cases same
      · intro _ member
        cases member)
    (by
      intro history pool cast pid call next _ _ gate _ rfl
      exact gate_start gate call)
    (by
      intro history pool cast pid event role rest next _ kept gate _ assigned permitted served _
      exact gate_perform gate assigned permitted kept served.1)
    (by
      intro history pool cast next _ gate drifted _
      exact gate_drift gate drifted.1)
    run kept
  exact ⟨cast, gate⟩

/-- Where a human decision is required, and as long as no step breaks the gate, every
transaction follows an approval of its row or the re-drive that created it, and a
rejected row stays rejected and never has a transaction. -/
theorem approval_gate {settings : Settings} {outside : Outside κ}
    (manual : settings.manualApprovalEnabled = true)
    (run : (service settings outside).system.Run history pool) (kept : Throughout GateKept history) :
    Throughout (fun earlier entry => ∀ key, Sends entry key → Approved earlier key ∨ Redriven earlier key)
        history ∧
      ∀ entry ∈ history, ∀ key, Rejects entry key →
        pool.world.table.status key = some .rejected ∧ ∀ other ∈ history, ¬ Sends other key := by
  obtain ⟨cast, gate⟩ := run_gate manual run kept
  refine ⟨gate.authorised, ?_⟩
  intro entry member key rejects
  have rejected := gate.rejected entry member key rejects
  refine ⟨rejected, ?_⟩
  intro other sent sends
  obtain ⟨status, found, _, stands⟩ := (gate.sent other sent key sends).status
  rw [rejected, Option.some.injEq] at found
  exact stands found.symm

/-! Two rehearsed runs. -/

def sentKey : ServiceMove → Option String
  | .perform _ ⟨.sendTransaction key _ _, _⟩ => some key
  | _ => none

/-- An approval, or the insert of a re-drive. -/
def authorises : ServiceMove → Bool
  | .perform _ ⟨.approveTrigger _ _, .ok (some _)⟩ => true
  | .perform _ ⟨.insertTrigger (.redrive _) _, .ok _⟩ => true
  | _ => false

private theorem sends_of_sentKey {entry : ServiceEntry κ} (sent : sentKey entry.label = some key) :
    Sends entry key := by
  unfold sentKey at sent
  split at sent
  · rename_i same
    cases sent
    exact ⟨_, _, _, _, same⟩
  · cases sent

private theorem unauthorised {history : ServiceHistory κ}
    (silent : (history.map Transition.label).any authorises = false) (key : String) :
    ¬ Approved history key ∧ ¬ Redriven history key := by
  have silent : ∀ entry ∈ history, authorises entry.label = false := by simpa using silent
  constructor
  · intro approved
    obtain ⟨pid, actor, row, entry, member, label⟩ := approved
    have quiet := silent entry member
    rw [label] at quiet
    cases quiet
  · intro redriven
    obtain ⟨pid, _, exhausted, data, row, _, _, ⟨entry, member, label⟩, _⟩ := redriven
    have quiet := silent entry member
    rw [label] at quiet
    cases quiet

/-- Inserts for approvals only, and none of them refused. -/
def calm : ServiceMove → Bool
  | .perform _ ⟨.insertTrigger origin _, answer⟩ => origin = .approval && answer.toOption.isSome
  | _ => true

private theorem gateKept_of_calm {history : ServiceHistory κ}
    (quiet : (history.map Transition.label).all calm = true) : Throughout GateKept history := by
  have quiet : ∀ entry ∈ history, calm entry.label = true := by simpa using quiet
  intro later entry earlier same
  unfold GateKept
  split
  · rename_i label
    have loud := quiet entry (by simp [same])
    simp [label, calm] at loud
  · rename_i label
    have loud := quiet entry (by simp [same])
    simp [label, calm] at loud
  · rename_i label
    intro _ refused
    obtain ⟨origin, data, error, _, other, member, refusal⟩ := refused
    have loud := quiet other (by simp [same, member])
    simp [refusal, calm, Except.toOption] at loud
  · trivial

/-- A re-drive request where nothing is exhausted releases the first tranche, though
nobody has approved it. -/
theorem ungatedRedrive_sends :
    ∃ (history : ServiceHistory Unit) (pool : ServicePool Unit) (entry : ServiceEntry Unit)
      (earlier : ServiceHistory Unit) (key : String),
      (service manualSettings anything).system.Run history pool ∧ history = entry :: earlier ∧
        Sends entry key ∧ ¬ Approved earlier key ∧ ¬ Redriven earlier key := by
  have outcome : ((rehearse manualSettings lockedTrade .empty
      [.start 0 (.executeTrigger (releaseRequest true)), .go 0 12]).map fun drive =>
        (drive.1.head?.bind sentKey, drive.1.tail.any authorises)) =
      some (some "RELEASE_STAGE_1:1:6", false) := by
    decide +kernel
  obtain ⟨drive, success, facts⟩ := Option.map_eq_some_iff.mp outcome
  obtain ⟨history, run, labels⟩ := rehearse_run success
  rw [← labels] at facts
  cases history with
  | nil => simp at facts
  | cons entry earlier =>
    simp only [List.map_cons, List.head?_cons, Option.bind_some, List.tail_cons, Prod.mk.injEq] at facts
    obtain ⟨sent, silent⟩ := facts
    exact ⟨_, _, entry, earlier, _, run, rfl, sends_of_sentKey sent, unauthorised silent _⟩

/-- A request, its approval and its transaction. -/
theorem approvedRequest_gated :
    ∃ (history : ServiceHistory Unit) (pool : ServicePool Unit),
      (service manualSettings anything).system.Run history pool ∧
        (∃ entry ∈ history, Sends entry "RELEASE_STAGE_1:1:6") ∧
        Throughout (fun earlier entry => ∀ key, Sends entry key →
          Approved earlier key ∨ Redriven earlier key) history := by
  have outcome : ((rehearse manualSettings lockedTrade .empty
      [.start 0 (.executeTrigger (releaseRequest false)), .go 0 8,
        .start 1 (.resumeAfterApproval "RELEASE_STAGE_1:1:6" "ops"), .go 1 6]).map fun drive =>
        (drive.1.head?.bind sentKey, drive.1.all calm)) =
      some (some "RELEASE_STAGE_1:1:6", true) := by
    decide +kernel
  obtain ⟨drive, success, facts⟩ := Option.map_eq_some_iff.mp outcome
  obtain ⟨history, run, labels⟩ := rehearse_run success
  rw [← labels] at facts
  cases history with
  | nil => simp at facts
  | cons entry earlier =>
    simp only [List.map_cons, List.head?_cons, Option.bind_some, Prod.mk.injEq] at facts
    obtain ⟨sent, quiet⟩ := facts
    exact ⟨_, _, run, ⟨entry, List.mem_cons_self, sends_of_sentKey sent⟩,
      (approval_gate rfl run (gateKept_of_calm quiet)).1⟩

end Agroasys.Oracle
