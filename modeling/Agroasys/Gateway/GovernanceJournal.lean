import Agroasys.Gateway.GovernanceExclusion

namespace Agroasys.Gateway

open Function Agroasys.Foundation

section Journals

/-- The entries that are written with a change of an action. -/
def changeEvents : List String :=
  ["governance.action.queued", "governance.action.execution.stale", "governance.action.execution.failed",
    "governance.action.execution.timeout", "governance.action.execution.succeeded", "governance.action.cleanup.stale"]

/-- The entry is of a change of this action. -/
def GovernanceAuditEntry.changes (entry : GovernanceAuditEntry) (actionId : String) : Bool :=
  changeEvents.contains entry.eventType && entry.metadata.lookup "actionId" = some (.text actionId)

/-- What a log tells of the changes of an action, newest first. -/
def changesOf (actionId : String) (auditLog : List GovernanceAuditEntry) : List GovernanceAuditEntry :=
  auditLog.filter (·.changes actionId)

/-- The changes of an action: it was queued, and afterwards no more than one executor stored an outcome. -/
inductive Journal : List GovernanceAuditEntry → Prop where
  | empty : Journal []
  | queued (first : entry.eventType = "governance.action.queued") : Journal [entry]
  | outcome (earlier : Journal entries) (begun : entries ≠ []) (later : entry.eventType ≠ "governance.action.queued")
      (alone : entry.method = "EXECUTE" → ∀ other ∈ entries, other.method ≠ "EXECUTE") : Journal (entry :: entries)

/-- The log agrees with the table about an action. -/
structure Agreed (world : GovernanceTables) (actionId : String) : Prop where
  journal : Journal (changesOf actionId world.auditLog)
  status : (world.get actionId).map (·.status.value) = (changesOf actionId world.auditLog).head?.map (·.status)

private theorem changesOf_cons (entry : GovernanceAuditEntry) (auditLog : List GovernanceAuditEntry) :
    changesOf actionId (entry :: auditLog) =
      if entry.changes actionId then entry :: changesOf actionId auditLog else changesOf actionId auditLog :=
  List.filter_cons

variable {world : GovernanceTables} {actionId : String}

private theorem Agreed.unqueued (agreed : Agreed world actionId) (none : world.get actionId = none) :
    changesOf actionId world.auditLog = [] := by
  have status := agreed.status
  rw [none, Option.map_none] at status
  exact List.head?_eq_none_iff.mp (Option.map_eq_none_iff.mp status.symm)

private theorem Agreed.begun (agreed : Agreed world actionId) (present : world.get actionId = some row) :
    changesOf actionId world.auditLog ≠ [] := by
  intro empty
  have status := agreed.status
  rw [present, empty] at status
  cases status

end Journals

section Entries

variable {config : GovernanceQueueConfig} {stage : GovernanceStage} {action : GovernanceAction}
  {entry : GovernanceAuditEntry} {request : ExecutorRequest}

/-- What is appended alone is of no change. -/
theorem appended_unchanged (permitted : stage.permits config (.appendAudit entry)) : entry.changes actionId = false := by
  cases stage with
  | answering input =>
    obtain ⟨existing, rfl⟩ := permitted
    rfl
  | holding request attempt =>
    cases attempt with
    | signed existing now executorWallet =>
      rcases permitted with ⟨rfl, _⟩ | rfl <;> rfl
    | _ => cases permitted
  | _ => cases permitted

/-- An outcome with its entry. -/
structure Tells (entry : GovernanceAuditEntry) (action : GovernanceAction) (named : String) : Prop where
  changes : ∀ actionId, entry.changes actionId = decide (named = actionId)
  status : entry.status = action.status.value
  later : entry.eventType ≠ "governance.action.queued"

private theorem changes_named (listed : changeEvents.contains entry.eventType = true)
    (named : entry.metadata.lookup "actionId" = some (.text name)) :
    entry.changes actionId = decide (name = actionId) := by
  unfold GovernanceAuditEntry.changes
  rw [listed, named, Bool.true_and]
  simp

private theorem tells_of (kind : entry.eventType = event)
    (listed : (changeEvents.contains event && event != "governance.action.queued") = true)
    (named : entry.metadata.lookup "actionId" = some (.text name)) (status : entry.status = action.status.value) :
    Tells entry action name := by
  subst kind
  rw [Bool.and_eq_true, bne_iff_ne] at listed
  exact ⟨fun _ => changes_named listed.1 named, status, listed.2⟩

private theorem stores_tells {result : Except ExecutionError GovernanceExecutionResult}
    (stores : Stores request existing executorWallet result action entry) :
    Tells entry action existing.actionId ∨ Tells entry action request.actionId := by
  cases stores with
  | timedOut | thrown => exact .inl (tells_of rfl rfl rfl rfl)
  | executed => exact .inr (tells_of rfl rfl rfl rfl)

variable {hashtext : String → Int} {utc : Int → Int} {history : GovernanceHistory} {pool next : GovernancePool}

/-- Every action is saved with an entry that tells its new status. -/
theorem save_tells (run : (governanceServer hashtext utc config).system.Run history pool)
    (staged : stagesOf config history pid = some stage) (permitted : stage.permits config (.saveAction action entry)) :
    Tells entry action action.actionId := by
  cases stage with
  | holding request attempt =>
    cases attempt with
    | overdue existing | unsigned existing =>
      obtain ⟨_, rfl, rfl⟩ := permitted
      exact tells_of rfl rfl rfl rfl
    | sent existing now executorWallet result =>
      have asked := works_asked run staged rfl
      have same := (Stores.settled permitted).1
      rcases stores_tells permitted with tells | tells
      · rwa [same]
      · rwa [same, asked]
    | _ => cases permitted
  | condemning now current =>
    obtain ⟨_, rfl, rfl⟩ := permitted
    exact tells_of rfl rfl rfl rfl
  | _ => cases permitted

/-- Every action is queued with an entry that tells so. -/
theorem claim_tells (permitted : stage.permits config (.claim action entry now)) :
    entry.eventType = "governance.action.queued" ∧ entry.method = "POST" ∧ entry.status = action.status.value ∧
      ∀ actionId, entry.changes actionId = decide (action.actionId = actionId) := by
  cases stage with
  | drafted input acceptedAt actionId =>
    obtain ⟨rfl, rfl, _⟩ := permitted
    exact ⟨rfl, rfl, rfl, fun _ => changes_named rfl rfl⟩
  | holding request attempt => cases attempt <;> cases permitted
  | _ => cases permitted

end Entries

section Runs

variable {hashtext : String → Int} {utc : Int → Int} {config : GovernanceQueueConfig} {history : GovernanceHistory}
  {pool next : GovernancePool}

/-- The log agrees with the table, and an entry of an executor's outcome has one. -/
structure Kept (history : GovernanceHistory) (pool : GovernancePool) : Prop where
  agreed : ∀ actionId, Agreed pool.world actionId
  settled : ∀ entry ∈ pool.world.auditLog, ∀ actionId, entry.changes actionId = true → entry.method = "EXECUTE" →
    ∃ past ∈ history, ∃ pid, Settles pid actionId past

/-- A step that changes no action. -/
theorem Kept.idle (kept : Kept history pool) (actions : next.world.actions = pool.world.actions)
    (log : ∀ actionId, changesOf actionId next.world.auditLog = changesOf actionId pool.world.auditLog) :
    Kept (⟨pool, move, next⟩ :: history) next := by
  constructor
  · intro actionId
    obtain ⟨journal, status⟩ := kept.agreed actionId
    refine ⟨(log actionId).symm ▸ journal, ?_⟩
    rw [get_same actions, log, status]
  · intro entry member actionId changes method
    have among : entry ∈ changesOf actionId pool.world.auditLog := by
      rw [← log]
      exact List.mem_filter.mpr ⟨member, changes⟩
    obtain ⟨past, old, settles⟩ := kept.settled entry (List.mem_filter.mp among).1 actionId changes method
    exact ⟨past, List.mem_cons_of_mem _ old, settles⟩

/-- A step that changes one action, with an entry that tells it. -/
theorem Kept.change (kept : Kept history pool) (saved : next.world = pool.world.save action entry)
    (changes : ∀ actionId, entry.changes actionId = decide (action.actionId = actionId))
    (status : entry.status = action.status.value)
    (journal : Journal (entry :: changesOf action.actionId pool.world.auditLog))
    (settles : entry.method = "EXECUTE" → ∃ pid, Settles pid action.actionId ⟨pool, move, next⟩) :
    Kept (⟨pool, move, next⟩ :: history) next := by
  have log : next.world.auditLog = entry :: pool.world.auditLog := by
    rw [saved]
    rfl
  constructor
  · intro actionId
    by_cases same : actionId = action.actionId
    · subst same
      have listed : changesOf action.actionId next.world.auditLog =
          entry :: changesOf action.actionId pool.world.auditLog := by
        rw [log, changesOf_cons, changes, if_pos (by simp)]
      refine ⟨listed.symm ▸ journal, ?_⟩
      rw [listed, saved, get_save, if_pos rfl]
      exact congrArg some status.symm
    · have listed : changesOf actionId next.world.auditLog = changesOf actionId pool.world.auditLog := by
        rw [log, changesOf_cons, changes, if_neg (by simpa using fun given => same given.symm)]
      obtain ⟨journal, status⟩ := kept.agreed actionId
      refine ⟨listed.symm ▸ journal, ?_⟩
      rw [listed, saved, get_save, if_neg same, status]
  · intro other member actionId named method
    rw [log] at member
    rcases List.mem_cons.mp member with rfl | member
    · rw [changes, decide_eq_true_eq] at named
      obtain ⟨pid, settled⟩ := settles method
      exact ⟨_, List.mem_cons_self, pid, named ▸ settled⟩
    · obtain ⟨past, old, settled⟩ := kept.settled other member actionId named method
      exact ⟨past, List.mem_cons_of_mem _ old, settled⟩

private theorem run_journal (run : (governanceServer hashtext utc config).system.Run history pool)
    (fresh : Throughout FreshIds history) : Kept history pool := by
  revert fresh
  apply Server.run_kept governance_follows ?_ ?_ ?_ ?_ run throughout_trivial
  · rintro origin ⟨⟨empty, log, _⟩, _⟩ _
    constructor
    · intro actionId
      refine ⟨?_, ?_⟩
      · rw [log]
        exact .empty
      · rw [log, GovernanceTables.get, empty]
        rfl
    · intro entry member
      rw [log] at member
      cases member
  · intro history pool pid call next _ _ _ taken kept fresh
    have same := (Server.started taken).1
    exact (kept fresh.cons.2).idle (by rw [same]) fun _ => by rw [same]
  · intro history pool pid event stage next acts _ kept fresh
    have rivalry := run_rivalry acts.run fresh.cons.2
    have kept := kept fresh.cons.2
    have changes := served_changes acts.served
    generalize world : next.world = after at changes
    cases changes with
    | nothing => exact kept.idle (by rw [world]) fun _ => by rw [world]
    | locked | unlocked | died => exact kept.idle (world ▸ rfl) fun _ => world ▸ rfl
    | @appended entry answer =>
      refine kept.idle (world ▸ rfl) fun actionId => ?_
      have log : next.world.auditLog = entry :: pool.world.auditLog := world ▸ rfl
      rw [log, changesOf_cons, appended_unchanged acts.permitted, if_neg Bool.false_ne_true]
    | claimed answer none =>
      obtain ⟨first, method, status, named⟩ := claim_tells acts.permitted
      refine kept.change world named status ?_ fun executes => ?_
      · rw [(kept.agreed _).unqueued (rivalry.unused acts rfl)]
        exact .queued first
      · rw [method] at executes
        exact absurd executes (by decide)
    | saved answer =>
      obtain ⟨named, status, later⟩ := save_tells acts.run acts.assigned acts.permitted
      refine kept.change world named status ?_ fun executes => ?_
      · obtain ⟨row, present⟩ := rivalry.saved_present acts rfl
        refine .outcome (kept.agreed _).journal ((kept.agreed _).begun present) later fun method other member executes => ?_
        obtain ⟨request, attempt, existing, holding, works, same⟩ := save_holding acts.permitted method
        obtain ⟨among, changes⟩ := List.mem_filter.mp member
        obtain ⟨past, old, settler, settles⟩ := kept.settled other among _ changes executes
        rw [same] at settles
        exact rivalry.unsettled pid request attempt existing (holding ▸ acts.assigned) works past old settler settles
      · exact ⟨pid, _, _, answer, rfl, executes, rfl, world⟩
  · intro history pool next _ _ taken kept fresh
    exact (kept fresh.cons.2).idle (by rw [taken.1]) fun _ => by rw [taken.1]

/-- The log tells the status of every action, that it was queued once, and that at most one executor has
stored an outcome of it. -/
theorem audit_log_journal (run : (governanceServer hashtext utc config).system.Run history pool)
    (fresh : Throughout FreshIds history) (actionId : String) : Agreed pool.world actionId :=
  (run_journal run fresh).agreed actionId

/-- An approval that is queued and executed. -/
theorem approval_journal :
    ∃ (history : GovernanceHistory) (pool : GovernancePool),
      (governanceServer (fun _ => 0) id queueConfig).system.Run history pool ∧
        (changesOf "action-1" pool.world.auditLog).map (·.eventType) =
          ["governance.action.execution.succeeded", "governance.action.queued"] ∧ Agreed pool.world "action-1" := by
  obtain ⟨recording, run, checked⟩ := (governanceServer (fun _ => 0) id queueConfig).record_run
    (governanceServing (fun _ => 0) id) (executing (minedAt 7)) noActions (approvalCues 18)
    (fun recording => checkEach freshDraw recording.history &&
      decide ((changesOf "action-1" recording.pool.world.auditLog).map (·.eventType) =
        ["governance.action.execution.succeeded", "governance.action.queued"]))
    rfl ⟨rfl, rfl, fun _ => rfl⟩ (by decide +kernel)
  rw [Bool.and_eq_true, decide_eq_true_eq] at checked
  obtain ⟨fresh, events⟩ := checked
  exact ⟨recording.history, recording.pool, run, events,
    audit_log_journal run (throughout_of_checkEach (fun _ _ => fresh_of_freshDraw) fresh) "action-1"⟩

end Runs

end Agroasys.Gateway
