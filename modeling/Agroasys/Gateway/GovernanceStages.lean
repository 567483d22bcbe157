import Agroasys.Foundation.Casting
import Agroasys.Gateway.GovernanceExecutor

namespace Agroasys.Gateway

open Function Agroasys.Foundation

section Attempts

/-- How far an executor is under the lock of an action: what it has found, when it has found it unexpired,
the wallet it signs with, and how the execution ended. -/
inductive Attempt where
  | entered
  | found (existing : GovernanceAction)
  | overdue (existing : GovernanceAction) (now : Int)
  | checked (existing : GovernanceAction) (now : Int)
  | unsigned (existing : GovernanceAction) (failure : Failure)
  | signed (existing : GovernanceAction) (now : Int) (executorWallet : String)
  | started (existing : GovernanceAction) (now : Int) (executorWallet : String)
  | sent (existing : GovernanceAction) (now : Int) (executorWallet : String)
      (result : Except ExecutionError GovernanceExecutionResult)
  | left

/-- The action that an executor works on. -/
def Attempt.existing : Attempt → Option GovernanceAction
  | .entered | .left => none
  | .found existing | .overdue existing _ | .checked existing _ | .unsigned existing _ | .signed existing _ _
  | .started existing _ _ | .sent existing _ _ _ => some existing

/-- An approval is signed by the wallet that queued it. -/
def GovernanceAction.SignedBy (action : GovernanceAction) (executorWallet : String) : Prop :=
  isApprovalGovernanceContractMethod action.contractMethod = true →
    normalizeWalletAddress action.audit.actorWallet ≠ "" ∧
      normalizeWalletAddress action.audit.actorWallet = normalizeWalletAddress executorWallet

/-- The statuses that an executed call may be found in. -/
def postExecutionStatuses (contractMethod : String) : List GovernanceActionStatus :=
  if contractMethod ∈ ["pause", "pauseClaims", "unpauseClaims", "claimTreasury", "disableOracleEmergency",
      "executeTreasuryPayoutAddressUpdate", "executeOracleUpdate"] then [.executed]
  else if contractMethod ∈ ["proposeUnpause", "proposeTreasuryPayoutAddressUpdate", "proposeOracleUpdate"] then
    [.pendingApprovals]
  else if contractMethod = "approveUnpause" then [.executed, .approved, .pendingApprovals]
  else if contractMethod ∈ ["cancelUnpauseProposal", "cancelExpiredTreasuryPayoutAddressUpdateProposal",
      "cancelExpiredOracleUpdateProposal"] then [.cancelled]
  else [.executed, .cancelled, .expired, .approved, .pendingApprovals]

/-- What an executor stores of an execution that ended so. -/
inductive Stores (request : ExecutorRequest) (existing : GovernanceAction) (executorWallet : String) :
    Except ExecutionError GovernanceExecutionResult → GovernanceAction → GovernanceAuditEntry → Prop where
  | timedOut (executedAt : Int) :
      Stores request existing executorWallet (.error .timedOut) (existing.timedOut executedAt)
        (request.timeoutEntry existing executorWallet)
  | thrown (failure : Failure) (executedAt : Int) :
      Stores request existing executorWallet (.error (.thrown failure)) (existing.failed failure executedAt)
        (request.failedEntry existing executorWallet failure)
  | executed (execution : GovernanceExecutionResult) (status : GovernanceActionStatus) (unresolved : Option Failure)
      (executedAt : Int) (among : status ∈ postExecutionStatuses existing.contractMethod) :
      Stores request existing executorWallet (.ok execution) (existing.executed execution status unresolved executedAt)
        (request.succeededEntry (existing.executed execution status unresolved executedAt) executorWallet)

/-- A read of the chain. -/
def GovernanceEffect.Reads : GovernanceEffect → Prop
  | .getGovernanceStatus | .getUnpauseProposalState | .getTreasuryPayoutReceiverProposalState _
  | .getOracleProposalState _ => True
  | _ => False

def Attempt.permits (request : ExecutorRequest) : Attempt → GovernanceEffect → Prop
  | .entered, .get actionId => actionId = request.actionId
  | .left, .get _ => True
  | .found _, .now | .overdue _ _, .now | .unsigned _ _, .now | .sent _ _ _ _, .now => True
  | .checked _ _, .getSignerAddress => True
  | .overdue existing _, .saveAction action entry =>
    ∃ executedAt, action = existing.stale unstartedMessage executedAt ∧ entry = request.staleEntry existing
  | .unsigned existing failure, .saveAction action entry =>
    ∃ executedAt, action = existing.failed failure executedAt ∧ entry = request.failedEntry existing none failure
  | .signed existing _ executorWallet, .appendAudit entry =>
    (entry = request.startedEntry existing executorWallet ∧ existing.SignedBy executorWallet) ∨
      entry = request.rejectedEntry existing executorWallet
  | .started existing _ _, .execute action => action = existing
  | .sent existing _ executorWallet result, .saveAction action entry =>
    Stores request existing executorWallet result action entry
  | .sent _ _ _ _, effect => effect.Reads
  | _, _ => False

def Attempt.after (request : ExecutorRequest) : Attempt → (effect : GovernanceEffect) → GovernanceAnswer effect → Attempt
  | .entered, .get _, answer =>
    match answer with
    | .ok (some existing) => if existing.status = .requested then .found existing else .left
    | .ok none | .error _ => .left
  | .found existing, .now, now =>
    if isExpiredRequestedGovernanceAction existing now then .overdue existing now else .checked existing now
  | .checked existing now, .getSignerAddress, answer =>
    match answer with
    | .ok executorWallet => .signed existing now executorWallet
    | .error failure => .unsigned existing failure
  | .signed existing now executorWallet, .appendAudit entry, answer =>
    match answer with
    | .ok () => if entry = request.startedEntry existing executorWallet then .started existing now executorWallet else .left
    | .error _ => .left
  | .started existing now executorWallet, .execute _, result => .sent existing now executorWallet result
  | _, .saveAction _ _, _ => .left
  | attempt, _, _ => attempt

/-- What the executor does of a request under its lock. -/
def attempts (request : ExecutorRequest) : Protocol GovernanceEffect GovernanceAnswer Attempt where
  permits := Attempt.permits request
  after := Attempt.after request

end Attempts

section Executors

variable {Role α β : Type} {protocol : Protocol GovernanceEffect GovernanceAnswer Role} {returns : Role → β → Prop}
  {throws : Role → Failure → Prop} {role : Role}

theorem runs_ask {effect : GovernanceEffect} {next : GovernanceAnswer effect → GovernanceTask β}
    (permitted : protocol.permits role effect)
    (rest : ∀ answer, protocol.Runs returns throws (protocol.after role effect answer) (next answer)) :
    protocol.Runs returns throws role (askGovernance effect >>= next) :=
  .bind (.perform permitted rest)

theorem runs_check {result : Except Failure α} {next : α → GovernanceTask β}
    (passed : ∀ value, result = .ok value → protocol.Runs returns throws role (next value))
    (failed : ∀ failure, result = .error failure → throws role failure) :
    protocol.Runs returns throws role (Task.ofExcept result >>= next) :=
  .bind (.ofExcept passed failed)

/-- A task that may do all it does and end anyhow. -/
abbrev Goes (protocol : Protocol GovernanceEffect GovernanceAnswer Role) (role : Role) (task : GovernanceTask α) : Prop :=
  protocol.Runs (fun _ _ => True) (fun _ _ => True) role task

private theorem Goes.follows {task : GovernanceTask α} (goes : Goes protocol role task) :
    protocol.Follows (fun _ _ => True) role task.run := by
  apply Protocol.Runs.follows
  exact goes

variable {request : ExecutorRequest} {existing : GovernanceAction} {failure : Failure}

theorem storedAction_goes {returns : Role → GovernanceAction → Prop} (permitted : protocol.permits role (.get actionId))
    (returned : ∀ answer value, returns (protocol.after role (.get actionId) answer) value)
    (failed : ∀ answer failure, throws (protocol.after role (.get actionId) answer) failure) :
    protocol.Runs returns throws role (storedAction actionId message) := by
  unfold storedAction getAction
  apply Protocol.Runs.bind
  refine runs_ask permitted fun answer => .ofExcept ?_ fun failure _ => failed answer failure
  intro found _
  cases found with
  | none => exact .throw (failed answer _)
  | some stored => exact .pure (returned answer stored)

theorem saveActionWithAudit_goes {attempt : Attempt}
    (permitted : attempt.permits request (.saveAction action entry)) :
    Goes (attempts request) attempt (saveActionWithAudit action entry) := by
  have leaves : ∀ answer, attempt.after request (.saveAction action entry) answer = .left := by
    intro answer
    cases attempt <;> rfl
  refine runs_ask permitted fun answer => ?_
  change Goes (attempts request) (attempt.after request (.saveAction action entry) answer) _
  rw [leaves answer]
  exact runs_check (fun _ _ => storedAction_goes trivial (fun _ _ => trivial) fun _ _ => trivial) fun _ _ => trivial

private theorem persistStale_goes :
    Goes (attempts request) (.overdue existing now) (persistStale request existing) :=
  runs_ask trivial fun executedAt => saveActionWithAudit_goes ⟨executedAt, rfl, rfl⟩

private theorem persistFailure_unsigned :
    Goes (attempts request) (.unsigned existing failure) (persistFailure request existing none failure) :=
  runs_ask trivial fun executedAt => saveActionWithAudit_goes ⟨executedAt, rfl, rfl⟩

private theorem persistFailure_sent :
    Goes (attempts request) (.sent existing now executorWallet (.error (.thrown failure)))
      (persistFailure request existing executorWallet failure) :=
  runs_ask trivial fun executedAt => saveActionWithAudit_goes (Stores.thrown failure executedAt)

private theorem persistExecutionTimeout_goes :
    Goes (attempts request) (.sent existing now executorWallet (.error .timedOut))
      (persistExecutionTimeout request existing executorWallet) :=
  runs_ask trivial fun executedAt => saveActionWithAudit_goes (Stores.timedOut executedAt)

private theorem fallback_among (fallback : fallbackPostExecutionStatus contractMethod = some status) :
    status ∈ postExecutionStatuses contractMethod := by
  unfold fallbackPostExecutionStatus at fallback
  split at fallback
  · rename_i among
    cases fallback
    simp only [List.mem_cons, List.not_mem_nil, or_false] at among
    rcases among with rfl | rfl | rfl | rfl | rfl | rfl <;> decide
  · cases fallback

private theorem resolved_among {proposal : Option GovernanceProposalState}
    (resolved : resolveProposalStatus proposal approvalsRequired = .ok status) :
    status ∈ [GovernanceActionStatus.executed, .cancelled, .expired, .approved, .pendingApprovals] := by
  unfold resolveProposalStatus at resolved
  split at resolved
  · cases resolved
  · cases resolved
    split
    · decide
    · split
      · decide
      · split
        · decide
        · split <;> decide

variable {executorWallet : String} {execution : GovernanceExecutionResult} {now : Int}

/-- Where an executor is once an execution has ended well. -/
abbrev ended (existing : GovernanceAction) (now : Int) (executorWallet : String) (execution : GovernanceExecutionResult) :
    Attempt :=
  .sent existing now executorWallet (.ok execution)

private theorem sent_reads {result : Except ExecutionError GovernanceExecutionResult} (reads : effect.Reads) :
    (Attempt.sent existing now executorWallet result).permits request effect ∧
      ∀ answer, (Attempt.sent existing now executorWallet result).after request effect answer =
        .sent existing now executorWallet result := by
  cases effect <;> first | exact ⟨trivial, fun _ => rfl⟩ | cases reads

/-- A status that an executed call of the method may be found in, and a failure to find it. -/
abbrev Resolves (request : ExecutorRequest) (existing : GovernanceAction) (now : Int) (executorWallet : String)
    (execution : GovernanceExecutionResult) (contractMethod : String) (task : GovernanceTask GovernanceActionStatus) :
    Prop :=
  (attempts request).Runs
    (fun role status => role = ended existing now executorWallet execution ∧
      status ∈ postExecutionStatuses contractMethod)
    (fun role _ => role = ended existing now executorWallet execution)
    (ended existing now executorWallet execution) task

theorem resolves_read {effect : GovernanceEffect} {next : GovernanceAnswer effect → GovernanceTask GovernanceActionStatus}
    (reads : effect.Reads)
    (rest : ∀ answer, Resolves request existing now executorWallet execution contractMethod (next answer)) :
    Resolves request existing now executorWallet execution contractMethod (askGovernance effect >>= next) := by
  have stays (answer) : (ended existing now executorWallet execution).after request effect answer =
      ended existing now executorWallet execution :=
    (sent_reads reads).2 answer
  refine runs_ask (sent_reads reads).1 fun answer => ?_
  change (attempts request).Runs _ _ (Attempt.after request _ effect answer) _
  rw [stays answer]
  exact rest answer

private theorem resolves_unpause :
    Resolves request existing now executorWallet execution "approveUnpause" resolveUnpauseApprovalStatus := by
  refine resolves_read trivial fun answer => runs_check (fun status _ => ?_) fun _ _ => rfl
  refine resolves_read trivial fun answer => runs_check (fun proposal _ => ?_) fun _ _ => rfl
  split
  · exact .pure ⟨rfl, by decide⟩
  · split
    · exact .pure ⟨rfl, by decide⟩
    · exact .pure ⟨rfl, by decide⟩

private theorem resolves_proposal {answer : Except Failure (Option GovernanceProposalState)} {approvalsRequired : Nat}
    (every : postExecutionStatuses contractMethod =
      [.executed, .cancelled, .expired, .approved, .pendingApprovals]) :
    Resolves request existing now executorWallet execution contractMethod (do
      let proposal ← Task.ofExcept answer
      Task.ofExcept (resolveProposalStatus proposal approvalsRequired)) := by
  refine runs_check (fun proposal _ => ?_) fun _ _ => rfl
  refine .ofExcept (fun status resolved => ⟨rfl, ?_⟩) fun _ _ => rfl
  rw [every]
  exact resolved_among resolved

private theorem resolvePostExecutionStatus_goes (contractMethod : String) (resolvedProposalId : Option Nat) :
    Resolves request existing now executorWallet execution contractMethod
      (resolvePostExecutionStatus contractMethod resolvedProposalId) := by
  unfold resolvePostExecutionStatus
  split
  · rename_i among
    simp only [List.mem_cons, List.not_mem_nil, or_false] at among
    rcases among with rfl | rfl | rfl | rfl | rfl | rfl | rfl <;> exact .pure ⟨rfl, by decide⟩
  · split
    · rename_i same
      subst same
      exact .pure ⟨rfl, by decide⟩
    · split
      · rename_i same
        subst same
        exact resolves_unpause
      · split
        · rename_i among
          simp only [List.mem_cons, List.not_mem_nil, or_false] at among
          rcases among with rfl | rfl | rfl <;> exact .pure ⟨rfl, by decide⟩
        · split
          · rename_i among
            simp only [List.mem_cons, List.not_mem_nil, or_false] at among
            rcases among with rfl | rfl <;> exact .pure ⟨rfl, by decide⟩
          · split
            · rename_i same
              subst same
              refine resolves_read trivial fun answer => runs_check (fun status _ => ?_) fun _ _ => rfl
              exact resolves_read trivial fun answer => resolves_proposal (by decide)
            · split
              · rename_i same
                subst same
                refine resolves_read trivial fun answer => runs_check (fun status _ => ?_) fun _ _ => rfl
                exact resolves_read trivial fun answer => resolves_proposal (by decide)
              · exact .throw rfl

/-- Whether it is read or guessed, the status is one of the method's. -/
theorem finalStatus_goes :
    (attempts request).Runs
      (fun role found => role = ended existing now executorWallet execution ∧
        found.1 ∈ postExecutionStatuses existing.contractMethod)
      (fun role _ => role = ended existing now executorWallet execution)
      (ended existing now executorWallet execution) (finalStatus existing execution) := by
  apply Protocol.Runs.tryCatch
  apply Protocol.Runs.bind
  apply (resolvePostExecutionStatus_goes _ _).mono
  · rintro _ status ⟨rfl, among⟩
    exact .pure ⟨rfl, among⟩
  · rintro _ failure rfl
    split
    · exact .throw rfl
    · rename_i fallback
      exact .pure ⟨rfl, fallback_among fallback⟩

private theorem persistExecution_goes :
    (attempts request).Runs
      (fun role persisted => role = ended existing now executorWallet execution ∧
        Stores request existing executorWallet (.ok execution) persisted (request.succeededEntry persisted executorWallet))
      (fun _ _ => True) (ended existing now executorWallet execution) (persistExecution existing execution) := by
  apply Protocol.Runs.bind
  apply finalStatus_goes.mono
  · rintro _ ⟨status, unresolved⟩ ⟨rfl, among⟩
    exact runs_ask trivial fun executedAt => .pure ⟨rfl, .executed execution status unresolved executedAt among⟩
  · exact fun _ _ _ => trivial

private theorem startExecution_goes (signed : existing.SignedBy executorWallet) :
    Goes (attempts request) (.signed existing now executorWallet) (startExecution request existing executorWallet) := by
  refine runs_ask (.inl ⟨rfl, signed⟩) fun answer => runs_check (fun _ acknowledged => ?_) fun _ _ => trivial
  have begun : (attempts request).after (.signed existing now executorWallet)
      (.appendAudit (request.startedEntry existing executorWallet)) answer = .started existing now executorWallet := by
    subst acknowledged
    exact if_pos rfl
  rw [begun]
  refine runs_ask rfl fun result => ?_
  change Goes (attempts request) (.sent existing now executorWallet result) _
  split
  · exact persistExecutionTimeout_goes
  · exact persistFailure_sent
  · rename_i execution
    apply Protocol.Runs.bind
    apply persistExecution_goes.mono
    · rintro _ persisted ⟨rfl, stores⟩
      have permitted : (ended existing now executorWallet execution).permits request
          (.saveAction persisted (request.succeededEntry persisted executorWallet)) := stores
      apply Protocol.Runs.tryCatch
      apply (saveActionWithAudit_goes permitted).mono
      · exact fun _ _ _ => trivial
      · exact fun _ _ _ => .throw trivial
    · exact fun _ _ _ => trivial

private theorem checkApprover_goes :
    (attempts request).Runs
      (fun role _ => role = .signed existing now executorWallet ∧ existing.SignedBy executorWallet) (fun _ _ => True)
      (.signed existing now executorWallet) (checkApprover request existing executorWallet) := by
  have signed (written : normalizeWalletAddress existing.audit.actorWallet ≠ "")
      (same : normalizeWalletAddress existing.audit.actorWallet = normalizeWalletAddress executorWallet) :
      existing.SignedBy executorWallet := fun _ => ⟨written, same⟩
  unfold checkApprover
  by_cases approves : isApprovalGovernanceContractMethod existing.contractMethod = true
  · rw [if_pos approves]
    -- The wallets as they are, so that no test of them is evaluated.
    generalize normalizeWalletAddress existing.audit.actorWallet = expected at *
    generalize normalizeWalletAddress executorWallet = actual at *
    by_cases missing : expected = ""
    · rw [if_pos missing]
      exact .throw trivial
    · rw [if_neg missing]
      by_cases same : expected = actual
      · rw [if_neg (not_not.mpr same)]
        exact .pure ⟨rfl, signed missing same⟩
      · rw [if_pos same]
        exact runs_ask (.inr rfl) fun answer => runs_check (fun _ _ => .throw trivial) fun _ _ => trivial
  · rw [if_neg approves]
    exact .pure ⟨rfl, fun asked => absurd asked approves⟩

/-- The executor goes through its stages. -/
theorem attemptExecution_goes (request : ExecutorRequest) :
    Goes (attempts request) .entered (attemptExecution request) := by
  unfold attemptExecution getAction
  apply Protocol.Runs.bind
  refine runs_ask rfl fun answer => .ofExcept (fun found same => ?_) fun _ _ => trivial
  subst same
  cases found with
  | none => exact .throw trivial
  | some existing =>
    dsimp only
    split
    · exact .pure trivial
    · rename_i requested
      have found : (attempts request).after .entered (.get request.actionId) (.ok (some existing)) = .found existing :=
        if_pos (not_not.mp requested)
      rw [found]
      refine runs_ask trivial fun now => ?_
      change Goes (attempts request)
        (if isExpiredRequestedGovernanceAction existing now then .overdue existing now else .checked existing now) _
      split
      · exact persistStale_goes
      · refine runs_ask trivial fun answer => ?_
        split
        · exact persistFailure_unsigned
        · apply Protocol.Runs.bind
          apply checkApprover_goes.mono
          · rintro _ _ ⟨rfl, signed⟩
            exact startExecution_goes signed
          · exact fun _ _ _ => trivial

end Executors

section Stages

/-- How far a program is. A cleanup remembers its time and the action it has found expired. -/
inductive GovernanceStage where
  | queueing (input : QueueGovernanceActionInput)
  | dated (input : QueueGovernanceActionInput) (acceptedAt : Int)
  | drafted (input : QueueGovernanceActionInput) (acceptedAt : Int) (actionId : String)
  | answering (input : QueueGovernanceActionInput)
  | waiting (request : ExecutorRequest)
  | holding (request : ExecutorRequest) (attempt : Attempt)
  | inspecting
  | sweeping (now : Int)
  | condemning (now : Int) (current : GovernanceAction)
  | condemned (now : Int)
  | closed

def GovernanceStage.permits (config : GovernanceQueueConfig) : GovernanceStage → GovernanceEffect → Prop
  | .queueing _, .now | .inspecting, .now => True
  | .dated _ _, .randomUUID => True
  | .drafted input acceptedAt actionId, .claim action entry now =>
    action = input.record config acceptedAt actionId ∧ entry = input.queuedEntry actionId ∧ now = acceptedAt
  | .answering _, .get _ => True
  | .answering input, .appendAudit entry => ∃ existing, entry = input.duplicateEntry existing
  | .waiting request, .lock actionId => actionId = request.actionId
  | .holding request _, .survive actionId | .holding request _, .unlock actionId => actionId = request.actionId
  | .holding request attempt, effect => attempt.permits request effect
  | .sweeping _, .randomUUID | .sweeping _, .listRequestedExpired _ _ | .sweeping _, .get _ => True
  | .condemned _, .get _ => True
  | .condemning now current, .saveAction action entry =>
    ∃ requestId, action = current.stale cleanedMessage now ∧ entry = cleanupEntry current requestId now
  | _, _ => False

def GovernanceStage.after : GovernanceStage → (effect : GovernanceEffect) → GovernanceAnswer effect → GovernanceStage
  | .queueing input, .now, now => .dated input now
  | .dated input acceptedAt, .randomUUID, uuid => .drafted input acceptedAt uuid
  | .drafted input _ _, .claim _ _ _, _ => .answering input
  | .waiting request, .lock _, answer =>
    match answer with
    | .ok () => .holding request .entered
    | .error _ => .closed
  | .holding request attempt, .survive _, survives => if survives then .holding request attempt else .closed
  | .holding _ _, .unlock _, _ => .closed
  | .holding request attempt, effect, answer => .holding request (attempt.after request effect answer)
  | .inspecting, .now, now => .sweeping now
  | .sweeping now, .get _, answer =>
    match answer with
    | .ok (some current) =>
      if isExpiredRequestedGovernanceAction current now then .condemning now current else .sweeping now
    | .ok none | .error _ => .sweeping now
  | .condemning now _, .saveAction _ _, _ => .condemned now
  | .condemned now, .get _, _ => .sweeping now
  | stage, _, _ => stage

def governanceStages (config : GovernanceQueueConfig) : Protocol GovernanceEffect GovernanceAnswer GovernanceStage where
  permits := GovernanceStage.permits config
  after := GovernanceStage.after

def GovernanceCall.enter : GovernanceCall → GovernanceStage
  | .queue input => .queueing input
  | .execute request => .waiting request
  | .clean (some now) _ | .preview (some now) _ => .sweeping now
  | .clean none _ | .preview none _ => .inspecting

variable {config : GovernanceQueueConfig} {request : ExecutorRequest}

private theorem attempt_permitted {attempt : Attempt} (permitted : attempt.permits request effect) :
    (GovernanceStage.holding request attempt).permits config effect := by
  cases effect <;> first | exact permitted | (cases attempt <;> cases permitted)

private theorem attempt_advanced {attempt : Attempt} (permitted : attempt.permits request effect)
    (answer : GovernanceAnswer effect) :
    (GovernanceStage.holding request attempt).after effect answer =
      .holding request (attempt.after request effect answer) := by
  cases effect <;> first | rfl | (cases attempt <;> cases permitted)

private theorem executeAction_goes (request : ExecutorRequest) :
    Goes (governanceStages config) (.waiting request) (executeAction request) := by
  refine runs_ask rfl fun answer => runs_check (fun _ acknowledged => ?_) fun _ _ => trivial
  subst acknowledged
  change Goes (governanceStages config) (.holding request .entered) _
  apply Protocol.Runs.bind
  apply Protocol.Runs.lift
  refine Protocol.Follows.mortal (GovernanceStage.holding request) ?_ ?_ ?_ ?_ ?_ ?_ (attemptExecution_goes request).follows
  · exact fun _ _ permitted => attempt_permitted permitted
  · exact fun _ _ answer permitted => attempt_advanced permitted answer
  · exact fun _ => rfl
  · exact fun _ answer survives => if_pos survives
  · exact fun _ _ _ => .throw trivial
  · exact fun _ _ _ => runs_ask rfl fun _ => runs_check (fun _ _ => .ofExcept (fun _ _ => trivial) fun _ _ => trivial)
      fun _ _ => trivial

private theorem queueAction_goes (input : QueueGovernanceActionInput) :
    Goes (governanceStages config) (.queueing input) (queueAction config input) := by
  have answered {message : String} (returns : GovernanceStage → GovernanceAction → Prop)
      (returned : ∀ value, returns (.answering input) value) (actionId : String) :
      (governanceStages config).Runs returns (fun _ _ => True) (.answering input) (storedAction actionId message) :=
    storedAction_goes trivial (fun _ => returned) fun _ _ => trivial
  refine runs_ask trivial fun acceptedAt => runs_ask trivial fun actionId => ?_
  change Goes (governanceStages config) (.drafted input acceptedAt actionId) _
  apply Protocol.Runs.bind
  refine runs_ask ⟨rfl, rfl, rfl⟩ fun answer => runs_check (fun existing _ => ?_) fun _ _ => trivial
  change (governanceStages config).Runs _ _ (.answering input) _
  cases existing with
  | none => exact .bind (answered _ (fun _ => .pure (.pure trivial)) _)
  | some existingActionId =>
    apply Protocol.Runs.bind
    refine answered _ (fun storedExisting => ?_) _
    refine runs_ask ⟨storedExisting, rfl⟩ fun answer => runs_check (fun _ _ => ?_) fun _ _ => trivial
    apply Protocol.Runs.bind
    refine answered _ (fun stored => .pure ?_) _
    apply Protocol.Runs.bind
    refine runs_ask trivial fun answer => .ofExcept (fun _ _ => .pure trivial) fun _ _ => trivial

private theorem inspectionTime_goes (time : Option Int) (limit : Nat) {returns : GovernanceStage → Int → Prop}
    (returned : ∀ now, returns (.sweeping now) now) :
    (governanceStages config).Runs returns (fun _ _ => True) (GovernanceCall.clean time limit).enter
      (inspectionTime time) := by
  cases time with
  | none => exact .perform trivial returned
  | some now => exact .pure (returned now)

private theorem applyCleanup_goes (candidates : List GovernanceAction) :
    Goes (governanceStages config) (.sweeping now) (applyCleanup requestId now candidates) := by
  induction candidates with
  | nil => exact .pure trivial
  | cons candidate candidates ih =>
    unfold applyCleanup getAction
    apply Protocol.Runs.bind
    refine runs_ask trivial fun answer => .ofExcept (fun found same => ?_) fun _ _ => trivial
    subst same
    cases found with
    | none => exact ih
    | some current =>
      change (governanceStages config).Runs _ _
        (if isExpiredRequestedGovernanceAction current now then GovernanceStage.condemning now current
          else .sweeping now) _
      dsimp only
      cases isExpiredRequestedGovernanceAction current now with
      | false => exact ih
      | true =>
        apply Protocol.Runs.bind
        refine runs_ask ⟨requestId, rfl, rfl⟩ fun answer => runs_check (fun _ _ => ?_) fun _ _ => trivial
        refine storedAction_goes trivial (fun _ _ => ?_) fun _ _ => trivial
        change (governanceStages config).Runs _ _ (.sweeping now) _
        apply Protocol.Runs.bind
        exact ih.mono (fun _ _ _ => .pure trivial) fun _ _ _ => trivial

private theorem cleanup_goes (time : Option Int) (limit : Nat) :
    Goes (governanceStages config) (GovernanceCall.clean time limit).enter (cleanup time limit) := by
  apply Protocol.Runs.bind
  refine inspectionTime_goes time limit fun now => ?_
  refine runs_ask trivial fun uuid => runs_ask trivial fun answer => runs_check (fun _ _ => ?_) fun _ _ => trivial
  apply Protocol.Runs.bind
  exact (applyCleanup_goes _).mono (fun _ _ _ => .pure trivial) fun _ _ _ => trivial

private theorem dryRun_goes (time : Option Int) (limit : Nat) :
    Goes (governanceStages config) (GovernanceCall.preview time limit).enter (dryRun time limit) := by
  have same : (GovernanceCall.preview time limit).enter = (GovernanceCall.clean time limit).enter := by
    cases time <;> rfl
  rw [same]
  apply Protocol.Runs.bind
  refine inspectionTime_goes time limit fun now => ?_
  refine runs_ask trivial fun answer => runs_check (fun _ _ => ?_) fun _ _ => trivial
  exact runs_ask trivial fun _ => .pure trivial

/-- Every program goes through its stages. -/
theorem governance_follows (call : GovernanceCall) :
    (governanceStages config).Follows (fun _ _ => True) call.enter
      ((governanceServer hashtext utc config).program call) := by
  have mapped {Value : Type} {stage : GovernanceStage} {task : GovernanceTask Value} (wrap : Value → GovernanceReply)
      (goes : Goes (governanceStages config) stage task) : Goes (governanceStages config) stage (wrap <$> task) :=
    .bind (goes.mono (fun _ _ _ => .pure trivial) fun _ _ _ => trivial)
  cases call with
  | queue input => exact (mapped .accepted (queueAction_goes input)).follows
  | execute request => exact (mapped .executed (executeAction_goes request)).follows
  | clean time limit => exact (mapped .cleaned (cleanup_goes time limit)).follows
  | preview time limit => exact (mapped .cleaned (dryRun_goes time limit)).follows

end Stages

end Agroasys.Gateway
