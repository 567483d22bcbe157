import Agroasys.Gateway.GovernanceRecords

/-! Where the actions in the table and the calls on chain come from: what is executed was queued so, and
what is stored of it happened. -/

namespace Agroasys.Gateway

open Function Agroasys.Foundation

variable {hashtext : String → Int} {utc : Int → Int} {config : GovernanceQueueConfig} {history : GovernanceHistory}
  {pool next : GovernancePool} {action original row : GovernanceAction}

section Outcomes

/-- An action as some caller queued it. -/
def Queued (config : GovernanceQueueConfig) (history : GovernanceHistory) (action : GovernanceAction) : Prop :=
  ∃ pid input acceptedAt, Began history pid (.queue input) ∧ Made history pid ⟨.now, acceptedAt⟩ ∧
    Made history pid ⟨.randomUUID, action.actionId⟩ ∧ action = input.record config acceptedAt action.actionId

/-- An outcome of an action that the history accounts for. -/
inductive Settled (history : GovernanceHistory) (original : GovernanceAction) : GovernanceAction → Prop where
  | cleaned (began : Began history pid call) (dated : Dated call (Made history pid) now)
      (expired : isExpiredRequestedGovernanceAction original now = true) :
      Settled history original (original.stale cleanedMessage now)
  | stale (executedAt : Int) (clock : Made history pid ⟨.now, now⟩)
      (expired : isExpiredRequestedGovernanceAction original now = true) :
      Settled history original (original.stale unstartedMessage executedAt)
  | unsigned {failure : Failure} (executedAt : Int) (unknown : Made history pid ⟨.getSignerAddress, .error failure⟩) :
      Settled history original (original.failed failure executedAt)
  | ended {stored : GovernanceAction} (made : Made history pid ⟨.execute original, result⟩)
      (stores : Stores request original executorWallet result stored entry) : Settled history original stored

theorem Queued.later (queued : Queued config history action) (entry : GovernanceEntry) :
    Queued config (entry :: history) action := by
  obtain ⟨pid, input, acceptedAt, began, clock, drawn, same⟩ := queued
  exact ⟨pid, input, acceptedAt, began.later entry, clock.later entry, drawn.later entry, same⟩

theorem Settled.later (settled : Settled history original action) (entry : GovernanceEntry) :
    Settled (entry :: history) original action := by
  cases settled with
  | cleaned began dated expired =>
    exact .cleaned (began.later entry) (dated.mono fun _ made => made.later entry) expired
  | stale executedAt clock expired => exact .stale executedAt (clock.later entry) expired
  | unsigned executedAt unknown => exact .unsigned executedAt (unknown.later entry)
  | ended made stores => exact .ended (made.later entry) stores

/-- In UTC an action that was queued is read as it was. -/
theorem Queued.readBy (queued : Queued config history action) (zone : ∀ wall, utc wall = wall) :
    action.readBy utc = action := by
  obtain ⟨_, input, acceptedAt, _, _, _, same⟩ := queued
  rw [same]
  simp [GovernanceAction.readBy, QueueGovernanceActionInput.record, buildAuditRecord, zone]

private theorem post_unrequested (among : status ∈ postExecutionStatuses contractMethod) :
    status ≠ .requested := by
  rintro rfl
  unfold postExecutionStatuses at among
  split at among
  · cases List.mem_singleton.mp among
  · split at among
    · cases List.mem_singleton.mp among
    · split at among
      · exact absurd among (by decide)
      · split at among
        · cases List.mem_singleton.mp among
        · exact absurd among (by decide)

/-- An outcome is of its action, which is requested no more. -/
theorem Stores.settled {result : Except ExecutionError GovernanceExecutionResult}
    (stores : Stores request original executorWallet result action entry) :
    action.actionId = original.actionId ∧ action.status ≠ .requested := by
  cases stores with
  | timedOut | thrown => exact ⟨rfl, fun status => by cases status⟩
  | executed _ _ _ _ among => exact ⟨rfl, post_unrequested among⟩

theorem Settled.settled (settled : Settled history original action) :
    action.actionId = original.actionId ∧ action.status ≠ .requested := by
  cases settled with
  | cleaned | stale | unsigned => exact ⟨rfl, fun status => by cases status⟩
  | ended _ stores => exact stores.settled

variable {stage : GovernanceStage} {call : GovernanceCall}

/-- What is saved over an action that was found requested accounts for it. -/
theorem save_settles (began : Began history pid call) (backed : stage.Backed call (Made history pid))
    (permitted : stage.permits config (.saveAction action entry)) :
    ∃ existing actionId, existing.status = .requested ∧ Made history pid ⟨.get actionId, .ok (some existing)⟩ ∧
      Settled history existing action := by
  cases stage with
  | holding request attempt =>
    obtain ⟨_, _, backed⟩ := backed
    cases attempt with
    | overdue existing now =>
      obtain ⟨found, clock, expired⟩ := backed
      obtain ⟨executedAt, rfl, _⟩ := permitted
      exact ⟨existing, _, found.requested, found.read, .stale executedAt clock expired⟩
    | unsigned existing failure =>
      obtain ⟨found, unknown⟩ := backed
      obtain ⟨executedAt, rfl, _⟩ := permitted
      exact ⟨existing, _, found.requested, found.read, .unsigned executedAt unknown⟩
    | sent existing now executorWallet result =>
      obtain ⟨started, made⟩ := backed
      exact ⟨existing, _, started.requested, started.read, .ended made permitted⟩
    | _ => cases permitted
  | condemning now current =>
    obtain ⟨dated, expired, actionId, read⟩ := backed
    obtain ⟨requestId, rfl, _⟩ := permitted
    have requested : current.status = .requested := by
      have both := expired
      unfold isExpiredRequestedGovernanceAction at both
      simp only [Bool.and_eq_true, decide_eq_true_eq] at both
      exact both.1
    exact ⟨current, actionId, requested, read, .cleaned began dated expired⟩
  | _ => cases permitted

/-- What is queued is as its caller asked. -/
theorem claim_queued (began : Began history pid call) (backed : stage.Backed call (Made history pid))
    (permitted : stage.permits config (.claim action entry now)) : Queued config history action := by
  cases stage with
  | drafted input acceptedAt actionId =>
    obtain ⟨rfl, clock, drawn⟩ := backed
    obtain ⟨rfl, _, _⟩ := permitted
    exact ⟨pid, input, acceptedAt, began, clock, drawn, rfl⟩
  | holding request attempt => cases attempt <;> cases permitted
  | _ => cases permitted

end Outcomes

section Steps

/-- The table changes when an action is queued or saved. -/
theorem changes_actions {before after : GovernanceTables} (changes : Changes hashtext before event after) :
    after.actions = before.actions ∨
      (∃ action entry now answer, event = ⟨.claim action entry now, answer⟩ ∧
        before.findOpenByIntentKey action.intentKey now = none ∧ after = before.save action entry) ∨
      ∃ action entry answer, event = ⟨.saveAction action entry, answer⟩ ∧ after = before.save action entry := by
  cases changes with
  | claimed answer none => exact .inr (.inl ⟨_, _, _, answer, rfl, none, rfl⟩)
  | saved answer => exact .inr (.inr ⟨_, _, answer, rfl, rfl⟩)
  | _ => exact .inl rfl

end Steps

section Accounts

/-- A row is an action as it was queued, or an outcome of what a process reads of one. -/
def Accounted (utc : Int → Int) (config : GovernanceQueueConfig) (history : GovernanceHistory)
    (row : GovernanceAction) : Prop :=
  ∃ original, Queued config history original ∧ original.actionId = row.actionId ∧
    (row = original ∨ Settled history (original.readBy utc) row)

theorem Accounted.later (accounted : Accounted utc config history row) (entry : GovernanceEntry) :
    Accounted utc config (entry :: history) row := by
  obtain ⟨original, queued, same, outcome⟩ := accounted
  exact ⟨original, queued.later entry, same, outcome.imp_right fun settled => settled.later entry⟩

/-- A row that is requested is as it was queued. -/
theorem Accounted.queued (accounted : Accounted utc config history row) (requested : row.status = .requested) :
    Queued config history row := by
  obtain ⟨original, queued, _, rfl | settled⟩ := accounted
  · exact queued
  · exact absurd requested settled.settled.2

/-- The rows, and what has been read of them. -/
structure Accounts (utc : Int → Int) (config : GovernanceQueueConfig) (history : GovernanceHistory)
    (pool : GovernancePool) : Prop where
  rows : ∀ row ∈ pool.world.actions, Accounted utc config history row
  reads : ∀ pid actionId row, Made history pid ⟨.get actionId, .ok (some row)⟩ → row.status = .requested →
    ∃ original, Queued config history original ∧ original.actionId = actionId ∧ row = original.readBy utc

/-- A step that keeps the rows and reads none. -/
theorem Accounts.idle (accounts : Accounts utc config history pool) (same : next.world.actions = pool.world.actions)
    (unread : ∀ pid actionId row, move ≠ .perform pid ⟨.get actionId, .ok (some row)⟩) :
    Accounts utc config (⟨pool, move, next⟩ :: history) next := by
  constructor
  · intro row member
    rw [same] at member
    exact (accounts.rows row member).later _
  · intro pid actionId row made requested
    rcases made_cons.mp made with label | made
    · exact absurd label (unread pid actionId row)
    · obtain ⟨original, queued, read⟩ := accounts.reads pid actionId row made requested
      exact ⟨original, queued.later _, read⟩

private theorem Accounts.save (accounts : Accounts utc config history pool)
    (unread : ∀ pid actionId row, move ≠ .perform pid ⟨.get actionId, .ok (some row)⟩)
    (saved : next.world = pool.world.save action entry)
    (accounted : Accounted utc config (⟨pool, move, next⟩ :: history) action) :
    Accounts utc config (⟨pool, move, next⟩ :: history) next := by
  constructor
  · intro row member
    rw [saved, mem_save] at member
    rcases member with rfl | ⟨member, _⟩
    · exact accounted
    · exact (accounts.rows row member).later _
  · intro pid actionId row made requested
    rcases made_cons.mp made with label | made
    · exact absurd label (unread pid actionId row)
    · obtain ⟨original, queued, read⟩ := accounts.reads pid actionId row made requested
      exact ⟨original, queued.later _, read⟩

theorem Accounts.read (accounts : Accounts utc config history pool) (same : next.world.actions = pool.world.actions)
    (present : pool.world.get actionId = some row) :
    Accounts utc config (⟨pool, .perform pid ⟨.get actionId, .ok (some (row.readBy utc))⟩, next⟩ :: history) next := by
  constructor
  · intro row member
    rw [same] at member
    exact (accounts.rows row member).later _
  · intro other asked found made requested
    rcases made_cons.mp made with label | made
    · cases label
      exact ⟨row, ((accounts.rows row (get_mem present)).queued requested).later _, get_id present, rfl⟩
    · obtain ⟨original, queued, read⟩ := accounts.reads other asked found made requested
      exact ⟨original, queued.later _, read⟩

theorem run_accounts (run : (governanceServer hashtext utc config).system.Run history pool) :
    Accounts utc config history pool := by
  apply Server.run_kept governance_follows ?_ ?_ ?_ ?_ run throughout_trivial
  · rintro origin ⟨⟨empty, _, _⟩, _⟩
    refine ⟨fun row member => ?_, fun _ _ _ made => ?_⟩
    · rw [empty] at member
      cases member
    · obtain ⟨_, member, _⟩ := made
      cases member
  · intro history pool pid call next _ _ _ taken accounts
    exact accounts.idle (by rw [(Server.started taken).1]) fun _ _ _ label => by cases label
  · intro history pool pid event stage next acts _ accounts
    obtain ⟨call, began, backed⟩ := stage_backed acts.run acts.assigned
    rcases changes_actions (served_changes acts.served) with same | ⟨action, entry, now, answer, rfl, _, saved⟩ |
        ⟨action, entry, answer, rfl, saved⟩
    · by_cases read : ∃ actionId row, event = ⟨.get actionId, .ok (some row)⟩
      · obtain ⟨actionId, row, rfl⟩ := read
        obtain ⟨stored, present, rfl⟩ := served_get acts.served
        exact accounts.read same present
      · refine accounts.idle same fun other actionId row label => read ⟨actionId, row, ?_⟩
        cases label
        rfl
    · refine accounts.save (fun _ _ _ label => by cases label) saved ?_
      exact ⟨action, (claim_queued began backed acts.permitted).later _, rfl, .inl rfl⟩
    · refine accounts.save (fun _ _ _ label => by cases label) saved ?_
      obtain ⟨existing, actionId, requested, read, settled⟩ := save_settles began backed acts.permitted
      obtain ⟨original, queued, _, rfl⟩ := accounts.reads pid actionId existing read requested
      exact ⟨original, queued.later _, settled.settled.1.symm, .inr (settled.later _)⟩
  · intro history pool next _ _ taken accounts
    exact accounts.idle (by rw [taken.1]) fun _ _ _ label => by cases label

end Accounts

section Holding

variable {stage : GovernanceStage}

/-- The lock of a stage. -/
def lockOf (hashtext : String → Int) : GovernanceStage → Option Int
  | .holding request _ => some (hashtext request.actionId)
  | _ => none

theorem casting_acts (acts : (governanceServer hashtext utc config).Acts (governanceStages config) GovernanceCall.enter history
      pool pid event stage next) :
    stagesOf config (⟨pool, .perform pid event, next⟩ :: history) =
      update (stagesOf config history) pid (some (stage.after event.effect event.answer)) :=
  casting_perform acts.assigned

/-- A lock is kept or let go, but by the call that takes one. -/
theorem lockOf_after {answer : GovernanceAnswer effect} (permitted : stage.permits config effect)
    (unlocked : ∀ actionId, Event.mk effect answer ≠ ⟨.lock actionId, .ok ()⟩) :
    lockOf hashtext (stage.after effect answer) = lockOf hashtext stage ∨
      lockOf hashtext (stage.after effect answer) = none := by
  cases stage with
  | holding request attempt =>
    cases effect with
    | survive actionId =>
      change lockOf hashtext (if answer = true then GovernanceStage.holding request attempt else .closed) = _ ∨
        lockOf hashtext (if answer = true then GovernanceStage.holding request attempt else .closed) = _
      split
      · exact .inl rfl
      · exact .inr rfl
    | unlock => exact .inr rfl
    | _ => exact .inl rfl
  | waiting request =>
    cases effect with
    | lock actionId =>
      cases answer with
      | ok => exact absurd rfl (unlocked actionId)
      | error => exact .inr rfl
    | _ => cases permitted
  | sweeping now =>
    cases effect with
    | get actionId =>
      cases answer with
      | error => exact .inr rfl
      | ok row =>
        cases row with
        | none => exact .inr rfl
        | some current =>
          change lockOf hashtext (if isExpiredRequestedGovernanceAction current now then
            GovernanceStage.condemning now current else .sweeping now) = _ ∨ _
          split <;> exact .inl rfl
    | randomUUID | listRequestedExpired => exact .inl rfl
    | _ => cases permitted
  | queueing | dated | drafted | answering | inspecting | condemning | condemned =>
    cases effect <;> exact .inl rfl
  | closed => cases permitted

/-- Locks are held by one program each. -/
theorem locks_step (exclusive : Exclusive (lockOf hashtext) (stagesOf config history) pool.world.locked)
    (acts : (governanceServer hashtext utc config).Acts (governanceStages config) GovernanceCall.enter history pool pid event
      stage next) :
    Exclusive (lockOf hashtext) (update (stagesOf config history) pid (some (stage.after event.effect event.answer)))
      next.world.locked := by
  have moved (same : next.world.locked = pool.world.locked) (unlocked : ∀ actionId, event ≠ ⟨.lock actionId, .ok ()⟩) :
      Exclusive (lockOf hashtext)
        (update (stagesOf config history) pid (some (stage.after event.effect event.answer))) next.world.locked := by
    rw [same]
    have moved : lockOf hashtext (stage.after event.effect event.answer) = lockOf hashtext stage ∨
        lockOf hashtext (stage.after event.effect event.answer) = none :=
      lockOf_after acts.permitted unlocked
    rcases moved with kept | dropped
    · exact exclusive.keep acts.assigned kept
    · exact exclusive.drop dropped
  have changes := served_changes acts.served
  generalize world : next.world = after at *
  cases changes with
  | nothing event unlocked => exact moved rfl unlocked
  | locked free =>
    cases stage with
    | waiting request =>
      cases acts.permitted
      exact exclusive.acquire free rfl
    | holding request attempt => cases attempt <;> cases acts.permitted
    | _ => cases acts.permitted
  | unlocked answer =>
    cases stage with
    | holding request attempt =>
      cases acts.permitted
      exact exclusive.release acts.assigned rfl rfl
    | _ => cases acts.permitted
  | died =>
    cases stage with
    | holding request attempt =>
      cases acts.permitted
      exact exclusive.release acts.assigned rfl rfl
    | _ => cases acts.permitted
  | claimed | saved | appended => exact moved rfl fun _ same => by cases same

/-- No two programs hold one lock, and what is held is locked. -/
theorem run_locks (run : (governanceServer hashtext utc config).system.Run history pool) :
    Exclusive (lockOf hashtext) (stagesOf config history) pool.world.locked := by
  apply Server.run_kept governance_follows ?_ ?_ ?_ ?_ run throughout_trivial
  · exact fun _ _ => .empty
  · intro history pool pid call next _ _ _ taken exclusive
    have unlocked : lockOf hashtext call.enter = none := by
      cases call with
      | queue | execute => rfl
      | clean time | preview time => cases time <;> rfl
    rw [(Server.started taken).1, stagesOf, casting_start]
    exact exclusive.drop unlocked
  · intro history pool pid event stage next acts _ exclusive
    rw [casting_acts acts]
    exact locks_step exclusive acts
  · intro history pool next _ _ taken exclusive
    rw [taken.1]
    exact exclusive

end Holding

section Log

variable {entry : GovernanceAuditEntry}

private theorem changes_log {before after : GovernanceTables} (changes : Changes hashtext before event after)
    (member : entry ∈ before.auditLog) : entry ∈ after.auditLog := by
  cases changes with
  | claimed | saved | appended => exact List.mem_cons_of_mem _ member
  | _ => exact member

/-- What is appended stays in the log. -/
theorem announced_logged (run : (governanceServer hashtext utc config).system.Run history pool)
    (announced : Made history pid ⟨.appendAudit entry, .ok ()⟩) : entry ∈ pool.world.auditLog := by
  revert announced
  apply run.history_invariant (P := fun history pool =>
    Made history pid ⟨.appendAudit entry, .ok ()⟩ → entry ∈ pool.world.auditLog)
  · rintro _ _ ⟨_, member, _⟩
    cases member
  · intro earlier state move next before taken ih made
    have kept (member : entry ∈ state.world.auditLog) : entry ∈ next.world.auditLog := by
      cases move with
      | start => rwa [(Server.started taken).1]
      | perform other event =>
        obtain ⟨_, _, served, _⟩ := taken
        exact changes_log (served_changes served) member
      | drift => rwa [taken.1]
    rcases made_cons.mp made with rfl | made
    · obtain ⟨_, _, served, _⟩ := taken
      obtain ⟨choice, executed⟩ := served
      have appended : state.world.append entry = next.world :=
        congrArg Prod.snd (Except.ok.inj (Fate.executed_ok executed))
      rw [← appended]
      exact List.mem_cons_self
    · exact kept (ih made)

end Log

section Starts

/-- What an executor starts on chain: some caller queued it so, the executor was asked for it and has its lock
to itself, found it requested and unexpired, may sign it, and has it in the log that the execution starts. -/
structure Authorised (hashtext : String → Int) (utc : Int → Int) (config : GovernanceQueueConfig)
    (history : GovernanceHistory) (world : GovernanceTables) (pid : Nat) (action : GovernanceAction) : Prop where
  queued : ∃ original, Queued config history original ∧ action = original.readBy utc
  unshifted : (∀ wall, utc wall = wall) → Queued config history action
  asked : ∃ request now executorWallet, Began history pid (.execute request) ∧ action.actionId = request.actionId ∧
    Started (Made history pid) request action now executorWallet ∧
      request.startedEntry action executorWallet ∈ world.auditLog
  locked : Made history pid ⟨.lock action.actionId, .ok ()⟩ ∧ world.locked (hashtext action.actionId) = true
  alone : ∀ other stage, stagesOf config history other = some stage →
    lockOf hashtext stage = some (hashtext action.actionId) → other = pid

def StartsAuthorised (hashtext : String → Int) (utc : Int → Int) (config : GovernanceQueueConfig)
    (earlier : GovernanceHistory) (entry : GovernanceEntry) : Prop :=
  ∀ pid action result, entry.label = .perform pid ⟨.execute action, result⟩ →
    Authorised hashtext utc config earlier entry.before.world pid action

theorem execute_started {stage : GovernanceStage} (permitted : stage.permits config (.execute action)) :
    ∃ request now executorWallet, stage = .holding request (.started action now executorWallet) := by
  cases stage with
  | holding request attempt =>
    cases attempt with
    | started existing now executorWallet =>
      cases permitted
      exact ⟨request, now, executorWallet, rfl⟩
    | _ => cases permitted
  | _ => cases permitted

/-- Nothing is started on chain but what was queued, as it was queued, and by who may and holds its lock. -/
theorem starts_authorised (run : (governanceServer hashtext utc config).system.Run history pool) :
    Throughout (StartsAuthorised hashtext utc config) history := by
  intro later entry earlier same pid action result label
  subst same
  obtain ⟨before, taken, _⟩ := run.split
  rw [label] at taken
  obtain ⟨stage, acts⟩ := Server.acts governance_follows before taken
  obtain ⟨request, now, executorWallet, rfl⟩ := execute_started acts.permitted
  obtain ⟨call, began, rfl, locked, started⟩ := stage_backed before acts.assigned
  have started : Started (Made earlier pid) request action now executorWallet := started
  obtain ⟨original, queued, same, rfl⟩ :=
    (run_accounts before).reads pid request.actionId action started.read started.requested
  have named : (original.readBy utc).actionId = request.actionId := same
  have locks := run_locks before
  refine ⟨⟨original, queued, rfl⟩, fun zone => (queued.readBy zone).symm ▸ queued,
    ⟨request, now, executorWallet, began, named, started, announced_logged before started.announced⟩, ?_, ?_⟩
  · rw [named]
    exact ⟨locked, locks.locked pid _ _ acts.assigned rfl⟩
  · intro other stage staged holds
    rw [named] at holds
    exact locks.alone other pid stage _ _ staged holds acts.assigned rfl

/-- Every action in the table is as some caller queued it, or carries an outcome that came about: of what a
process reads of it, which in UTC is the action itself. -/
theorem actions_accounted (run : (governanceServer hashtext utc config).system.Run history pool) :
    (∀ row ∈ pool.world.actions, Accounted utc config history row) ∧
      ((∀ wall, utc wall = wall) → ∀ row ∈ pool.world.actions, ∃ original, Queued config history original ∧
        original.actionId = row.actionId ∧ (row = original ∨ Settled history original row)) := by
  have accounts := run_accounts run
  refine ⟨accounts.rows, fun zone row member => ?_⟩
  obtain ⟨original, queued, named, outcome⟩ := accounts.rows row member
  rw [queued.readBy zone] at outcome
  exact ⟨original, queued, named, outcome⟩

end Starts

section Scenarios

def queueContext : MutationContext where
  principal := ⟨⟨"admin-1", "0x00000000000000000000000000000000000000aa", .admin, 0, 3600⟩,
    [.operatorRead, .operatorWrite], true⟩
  sessionReference := "sess:1"
  requestContext := ⟨"request-1", "request-1"⟩
  routePath := "/governance/unpause/proposal/approve"
  idempotencyKey := "key-1"

def queueAudit : MutationAuditInput where
  reason := "Incident is resolved"
  evidenceLinks := [⟨.ticket, "https://tickets/1", none⟩]
  ticketRef := "INC-1"

def queueConfig : GovernanceQueueConfig := ⟨.infinite, 3600⟩

def approvalInput : QueueGovernanceActionInput where
  category := .unpause
  contractMethod := "approveUnpause"
  proposalId := none
  targetAddress := none
  tradeId := none
  audit := queueAudit
  context := queueContext

/-- Statements succeed, the chain answers so, and its status cannot be read. -/
def executing (execution : Except ExecutionError GovernanceExecutionResult) (time : Nat) : GovernanceChoice where
  fate := .acknowledged
  now := time
  uuid := if time < 4 then "action-1" else "id-2"
  survives := true
  signer := .ok " 0x00000000000000000000000000000000000000AA"
  execution := execution
  status := .error connectionLost
  unpause := .error connectionLost
  proposal := .error connectionLost

def noActions : GovernanceTables := ⟨[], [], fun _ => false⟩

/-- An approval is queued, and an executor works on it for so long. -/
def approvalCues (count : Nat) : List (Cue GovernanceCall) :=
  [.start 0 (.queue approvalInput), .go 0 4, .start 1 (.execute ⟨"action-1", "executor-1", none⟩), .go 1 count]

/-- What a step starts on chain. -/
def startedBy (entry : GovernanceEntry) : Option (Nat × GovernanceAction) :=
  match entry.label with
  | .perform pid ⟨.execute action, _⟩ => some (pid, action)
  | _ => none

theorem started_of_startedBy {entry : GovernanceEntry} (started : startedBy entry = some (pid, action)) :
    ∃ result, entry.label = .perform pid ⟨.execute action, result⟩ := by
  unfold startedBy at started
  split at started
  · rename_i result label
    cases started
    exact ⟨result, label⟩
  · cases started

def minedAt (blockNumber : Nat) : Except ExecutionError GovernanceExecutionResult :=
  .ok ⟨"0x01", blockNumber, none⟩

theorem approval_authorised :
    ∃ (history : GovernanceHistory) (pool : GovernancePool) (entry : GovernanceEntry) (earlier : GovernanceHistory)
      (action : GovernanceAction), (governanceServer (fun _ => 0) id queueConfig).system.Run history pool ∧
        startedBy entry = some (1, action) ∧ entry ∈ history ∧
          Authorised (fun _ => 0) id queueConfig earlier entry.before.world 1 action := by
  obtain ⟨recording, run, checked⟩ := (governanceServer (fun _ => 0) id queueConfig).record_run
    (governanceServing (fun _ => 0) id) (executing (minedAt 7)) noActions (approvalCues 13)
    (fun recording => checkSome (fun _ entry => (startedBy entry).any (·.1 = 1)) recording.history)
    rfl ⟨rfl, rfl, fun _ => rfl⟩ (by decide +kernel)
  obtain ⟨later, entry, earlier, same, sends⟩ := sometime_of_checkSome (fun _ _ met => met) checked
  cases sent : startedBy entry with
  | none =>
    rw [sent] at sends
    cases sends
  | some pair =>
    obtain ⟨pid, action⟩ := pair
    rw [sent] at sends
    obtain rfl : pid = 1 := of_decide_eq_true sends
    obtain ⟨result, label⟩ := started_of_startedBy sent
    have authorised := starts_authorised run later entry earlier same 1 action result label
    exact ⟨recording.history, recording.pool, entry, earlier, action, run, sent, by simp [same], authorised⟩

/-- The outcome that is stored of an approval whose status cannot be read. -/
theorem approval_accounted :
    ∃ (history : GovernanceHistory) (pool : GovernancePool) (row : GovernanceAction),
      (governanceServer (fun _ => 0) id queueConfig).system.Run history pool ∧ row ∈ pool.world.actions ∧
        row.status = .pendingApprovals ∧ row.txHash = some "0x01" ∧
          row.errorCode = some "STATUS_RECONCILIATION_REQUIRED" ∧ Accounted id queueConfig history row := by
  obtain ⟨recording, run, checked⟩ := (governanceServer (fun _ => 0) id queueConfig).record_run
    (governanceServing (fun _ => 0) id) (executing (minedAt 7)) noActions (approvalCues 18)
    (fun recording => recording.pool.world.actions.any fun row => decide (row.status = .pendingApprovals) &&
      decide (row.txHash = some "0x01") && decide (row.errorCode = some "STATUS_RECONCILIATION_REQUIRED"))
    rfl ⟨rfl, rfl, fun _ => rfl⟩ (by decide +kernel)
  obtain ⟨row, member, stored⟩ := List.any_eq_true.mp checked
  simp only [Bool.and_eq_true, decide_eq_true_eq] at stored
  obtain ⟨⟨status, hash⟩, code⟩ := stored
  exact ⟨recording.history, recording.pool, row, run, member, status, hash, code, (actions_accounted run).1 row member⟩

end Scenarios

end Agroasys.Gateway
