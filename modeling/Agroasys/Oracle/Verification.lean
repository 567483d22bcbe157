import Agroasys.Oracle.Roles

namespace Agroasys.Oracle

open Agroasys.Foundation

inductive Verifier where
  /-- `executeTrigger` before it has read the action's latest row. -/
  | asking (isRedrive : Bool)
  | fetching
  /-- A re-drive of a row or a poll of a batch, with the trade looked at last. -/
  | checking (rows : List Trigger) (look : Option (String × Trade))
  | busy

/-- What the service takes for an executed action: `getTrade` or the validation refuses
the trade. -/
inductive TakenAsDone (row : Trigger) (trade : Trade) : Prop where
  | missing (failure : Failure) (refused : checkTrade row.tradeId trade = .error failure)
  | refused (now : Nat) (failure : Failure)
      (refused : validateTradeState now trade row.triggerType = .error failure)

/-- A row of the call, whose trade it looked at last. -/
def Verifier.Verifies (role : Verifier) (key : String) : Prop :=
  ∃ rows row trade, role = .checking rows (some (row.tradeId, trade)) ∧ row ∈ rows ∧
    row.idempotencyKey = key ∧ TakenAsDone row trade

def Verifier.permits (role : Verifier) : Effect → Prop
  | .updateTrigger key updates => updates = verifiedUpdates → role.Verifies key
  | _ => True

def Verifier.after (role : Verifier) (effect : Effect) (answer : Answer effect) : Verifier :=
  match role, effect, answer with
  | .asking isRedrive, .getLatestTriggerByActionKey _, .ok (some latest) =>
    if isRedrive = true ∧ latest.status = .exhaustedNeedsRedrive then .checking [latest] none else .busy
  | .fetching, .getTriggersByStatus _ _, .ok rows => .checking rows none
  | .checking rows _, .getTrade tradeId, .ok trade => .checking rows (some (tradeId, trade))
  | role, _, _ => role

def verification : Protocol Effect Answer Verifier where
  permits := Verifier.permits
  after := Verifier.after

def Call.verifier : Call → Verifier
  | .executeTrigger request => .asking request.isRedrive
  | .pollConfirmations => .fetching
  | .resumeAfterApproval _ _ | .rejectPendingTrigger _ _ _ => .busy

/-- A task that marks nothing as verified, in any role. -/
def Quiet (throws : Failure → Prop) (task : Job α) : Prop :=
  ∀ role, verification.Runs (fun _ _ => True) (fun _ failure => throws failure) role task

section Quiet

variable {throws : Failure → Prop}

theorem Quiet.pure (value : α) : Quiet throws (pure value) :=
  fun _ => .pure trivial

theorem Quiet.throw {failure : Failure} (thrown : throws failure) : Quiet throws (throw failure : Job α) :=
  fun _ => .throw thrown

theorem Quiet.bind {task : Job α} {next : α → Job β} (first : Quiet throws task)
    (rest : ∀ value, Quiet throws (next value)) : Quiet throws (task >>= next) := by
  intro role
  apply Protocol.Runs.bind
  exact (first role).mono (fun role value _ => rest value role) fun _ _ thrown => thrown

private theorem Quiet.tryCatch {task : Job α} {handler : Failure → Job α} {thrown : Failure → Prop}
    (first : Quiet thrown task) (rest : ∀ failure, thrown failure → Quiet throws (handler failure)) :
    Quiet throws (tryCatch task handler) := by
  intro role
  apply Protocol.Runs.tryCatch
  exact (first role).mono (fun _ _ _ => trivial) fun role failure raised => rest failure raised role

private theorem Quiet.mono {task : Job α} {thrown : Failure → Prop} (quiet : Quiet thrown task)
    (weaker : ∀ failure, thrown failure → throws failure) : Quiet throws task :=
  fun role => (quiet role).mono (fun _ _ _ => trivial) fun _ failure => weaker failure

theorem Quiet.call {effect : Effect} {next : Answer effect → Job α}
    (silent : ∀ role : Verifier, role.permits effect) (rest : ∀ answer, Quiet throws (next answer)) :
    Quiet throws (perform effect >>= next) := by
  intro role
  apply Protocol.Runs.bind
  exact Protocol.Runs.perform (silent role) fun answer => rest answer _

theorem Quiet.await {answer : Except ForeignError α} (raised : ∀ error, throws (.foreign error)) :
    Quiet throws (await answer) := by
  cases answer with
  | ok value => exact .pure value
  | error error => exact .throw (raised error)

private theorem Quiet.check {result : Except Failure α} (raised : ∀ failure, throws failure) :
    Quiet throws (check result) := by
  cases result with
  | ok value => exact .pure value
  | error failure => exact .throw (raised failure)

end Quiet

private theorem silent_update (other : updates ≠ verifiedUpdates) (role : Verifier) :
    role.permits (.updateTrigger key updates) :=
  fun same => absurd same other

private theorem LoopUpdates.unverifies (loop : LoopUpdates updates status) : updates ≠ verifiedUpdates := by
  intro same
  have unverified := loop.unverified
  rw [same] at unverified
  cases unverified

section Silent

variable {throws : Failure → Prop}

theorem quiet_updateTrigger (other : updates ≠ verifiedUpdates) (raised : ∀ error, throws (.foreign error)) :
    Quiet throws (updateTrigger key updates) :=
  .call (silent_update other) fun _ => .await raised

private theorem quiet_getTrade (raised : ∀ failure, throws failure) : Quiet throws (getTrade tradeId) :=
  .call (fun _ => trivial) fun _ => .bind (.await fun _ => raised _) fun _ => .check raised

private theorem quiet_validateState (raised : ∀ failure, throws failure) :
    Quiet throws (validateState trade triggerType) :=
  .call (fun _ => trivial) fun _ => .check raised

private theorem quiet_getLatestTriggerByActionKey (raised : ∀ error, throws (.foreign error)) :
    Quiet throws (getLatestTriggerByActionKey actionKey) :=
  .call (fun _ => trivial) fun _ => .await raised

private theorem quiet_getTriggerByIdempotencyKey (raised : ∀ error, throws (.foreign error)) :
    Quiet throws (getTriggerByIdempotencyKey key) :=
  .call (fun _ => trivial) fun _ => .await raised

private theorem quiet_attemptTrigger (trigger : Trigger) (actionKey : String) (attempt : Nat) :
    Quiet (fun _ => True) (attemptTrigger trigger actionKey attempt) := by
  refine Quiet.call (fun _ => trivial) ?_
  intro _
  apply Quiet.bind (quiet_getTrade fun _ => trivial)
  intro trade
  apply Quiet.bind (quiet_validateState fun _ => trivial)
  intro _
  apply Quiet.bind (quiet_updateTrigger (by simp [verifiedUpdates]) fun _ => trivial)
  intro _
  refine Quiet.call (fun _ => trivial) ?_
  intro answer
  apply Quiet.bind (.await fun _ => trivial)
  intro result
  refine Quiet.call (fun _ => trivial) ?_
  intro submittedAt
  apply Quiet.bind (quiet_updateTrigger (by simp [verifiedUpdates]) fun _ => trivial)
  intro _
  exact .pure _

private theorem quiet_retryFrom (settings : Settings) (trigger : Trigger) (actionKey : String)
    (attempt remaining : Nat) : Quiet Foreign (retryFrom settings trigger actionKey attempt remaining) := by
  induction remaining generalizing attempt with
  | zero => exact .throw ⟨_, rfl⟩
  | succ remaining ih =>
    apply Quiet.tryCatch (quiet_attemptTrigger trigger actionKey attempt)
    intro failure _
    apply Quiet.bind (quiet_updateTrigger (failureUpdates_loop _ _ _).unverifies fun _ => ⟨_, rfl⟩)
    intro _
    rcases determineNextStatus_cases (classifyError failure) attempt settings.maxAttempts with
      ⟨_, same⟩ | ⟨_, _, same⟩ | ⟨retryable, more, same⟩
    · rw [if_pos same]
      exact .pure _
    · rw [if_neg (by simp [same]), if_pos same]
      exact .pure _
    · rw [if_neg (by simp [same]), if_neg (by simp [same]), if_pos ⟨more, retryable⟩]
      apply Quiet.bind
      · exact .call (fun _ => trivial) fun _ => fun role => Protocol.Runs.perform trivial fun _ => trivial
      · intro _
        exact ih (attempt + 1)

theorem quiet_executeWithRetry (settings : Settings) (trigger : Trigger) (actionKey : String) :
    Quiet Foreign (executeWithRetry settings trigger actionKey) :=
  quiet_retryFrom settings trigger actionKey 1 settings.maxAttempts

private theorem quiet_createTrigger (origin : Origin) (data : CreateTriggerData) :
    Quiet Foreign (createTrigger origin data) := by
  refine Quiet.call (fun _ => trivial) ?_
  intro answer
  cases answer with
  | ok row => exact .pure row
  | error error =>
    by_cases unique : error.code = uniqueViolation
    · simp only [if_pos unique]
      apply Quiet.bind (quiet_getLatestTriggerByActionKey fun _ => ⟨_, rfl⟩)
      intro latest
      cases latest with
      | none => exact .throw ⟨_, rfl⟩
      | some existing => exact .pure existing
    · simp only [if_neg unique]
      exact .throw ⟨_, rfl⟩

private theorem quiet_createNewTrigger (origin : Origin) (request : TriggerRequest) (actionKey : String) :
    Quiet Foreign (createNewTrigger origin request actionKey) :=
  .call (fun _ => trivial) fun _ => quiet_createTrigger _ _

private theorem quiet_createAndExecute (settings : Settings) (request : TriggerRequest) (actionKey : String) :
    Quiet (fun _ => True) (createAndExecute settings request actionKey) := by
  apply Quiet.bind (quiet_getTrade fun _ => trivial)
  intro trade
  apply Quiet.bind (quiet_validateState fun _ => trivial)
  intro _
  split
  · apply Quiet.bind ((quiet_createNewTrigger _ request actionKey).mono fun _ _ => trivial)
    intro trigger
    apply Quiet.bind (quiet_updateTrigger (by simp [verifiedUpdates]) fun _ => trivial)
    intro _
    exact .pure _
  · apply Quiet.bind ((quiet_createNewTrigger _ request actionKey).mono fun _ _ => trivial)
    intro trigger
    exact (quiet_executeWithRetry settings trigger actionKey).mono fun _ _ => trivial

private theorem quiet_startTrigger (settings : Settings) (request : TriggerRequest) (actionKey : String) :
    Quiet (fun _ => True) (startTrigger settings request actionKey) := by
  refine Quiet.call (fun _ => trivial) ?_
  intro random
  apply Quiet.bind (quiet_getTriggerByIdempotencyKey fun _ => trivial)
  intro existing
  cases existing with
  | some existing => exact .pure _
  | none =>
    apply Quiet.tryCatch (quiet_createAndExecute settings request actionKey)
    intro failure _
    split <;> exact .throw trivial

private theorem quiet_alreadyProcessed (key : String) : Quiet (fun _ => True) (alreadyProcessed key) := by
  apply Quiet.bind (quiet_getTriggerByIdempotencyKey fun _ => trivial)
  intro existing
  cases existing with
  | none => exact .throw trivial
  | some existing => exact .pure _

private theorem quiet_resumeAfterApproval (settings : Settings) (key actor : String) :
    Quiet (fun _ => True) (resumeAfterApproval settings key actor) := by
  refine Quiet.call (fun _ => trivial) ?_
  intro answer
  apply Quiet.bind (.await fun _ => trivial)
  intro updated
  cases updated with
  | none => exact quiet_alreadyProcessed key
  | some updated => exact (quiet_executeWithRetry settings updated _).mono fun _ _ => trivial

private theorem quiet_rejectPendingTrigger (key actor : String) (reason : Option String) :
    Quiet (fun _ => True) (rejectPendingTrigger key actor reason) := by
  refine Quiet.call (fun _ => trivial) ?_
  intro answer
  apply Quiet.bind (.await fun _ => trivial)
  intro updated
  cases updated with
  | none => exact quiet_alreadyProcessed key
  | some updated => exact .pure _

end Silent

section Verifying

variable {returns : Verifier → α → Prop} {throws : Verifier → Failure → Prop}

/-- After a look the role knows the trade, also where `getTrade` refuses it. -/
theorem runs_look {tradeId : String} {throws : Verifier → Failure → Prop} {returns : Verifier → Trade → Prop}
    (returned : ∀ trade, returns (.checking rows (some (tradeId, trade))) trade)
    (missing : ∀ trade failure, checkTrade tradeId trade = .error failure →
      throws (.checking rows (some (tradeId, trade))) failure)
    (raised : ∀ error, throws (.checking rows look) (.foreign error)) :
    verification.Runs returns throws (.checking rows look) (getTrade tradeId) := by
  apply Protocol.Runs.bind
  apply Protocol.Runs.perform (by trivial)
  intro answer
  cases answer with
  | error error => exact .throw (raised error)
  | ok trade =>
    apply Protocol.Runs.bind
    change verification.Runs returns throws (.checking rows (some (tradeId, trade))) (check (checkTrade tradeId trade))
    cases checked : checkTrade tradeId trade with
    | error failure => exact .throw (missing trade failure checked)
    | ok same =>
      have kept : same = trade := by
        unfold checkTrade at checked
        split at checked <;> cases checked
        rfl
      rw [kept]
      exact .pure (returned trade)

/-- What is thrown on the way to a verification. -/
def Refusal (exhausted : Trigger) (role : Verifier) (failure : Failure) : Prop :=
  Foreign failure ∨ ∃ trade, role = .checking [exhausted] (some (exhausted.tradeId, trade)) ∧
    TakenAsDone exhausted trade

private theorem runs_redrive_look (settings : Settings) (exhausted : Trigger) (request : TriggerRequest) :
    verification.Runs (fun _ _ => True) (Refusal exhausted) (.checking [exhausted] none)
      (redrive settings exhausted request) := by
  apply Protocol.Runs.bind
  apply runs_look
  · intro trade
    apply Protocol.Runs.bind
    apply Protocol.Runs.bind
    apply Protocol.Runs.perform (by trivial)
    intro now
    change verification.Runs _ _ (.checking [exhausted] (some (exhausted.tradeId, trade))) _
    cases validated : validateTradeState now trade exhausted.triggerType with
    | error failure => exact .throw (.inr ⟨trade, rfl, .refused now failure validated⟩)
    | ok _ =>
      have creates : Quiet Foreign (do
          let newRequestId ← perform .randomBytes
          let newIdempotencyKey := generateIdempotencyKey exhausted.actionKey (← perform .randomBytes)
          let newTrigger ← createTrigger (.redrive exhausted)
            { actionKey := exhausted.actionKey, requestId := newRequestId, idempotencyKey := newIdempotencyKey,
              tradeId := exhausted.tradeId, triggerType := exhausted.triggerType,
              requestHash := orUndefined request.requestHash, status := .pending }
          executeWithRetry settings newTrigger exhausted.actionKey) :=
        .call (fun _ => trivial) fun _ => .call (fun _ => trivial) fun _ =>
          .bind (quiet_createTrigger _ _) fun _ => quiet_executeWithRetry _ _ _
      exact (creates _).mono (fun _ _ _ => trivial) fun _ _ => .inl
  · intro trade failure refused
    exact .inr ⟨trade, rfl, .missing failure refused⟩
  · intro error
    exact .inl ⟨error, rfl⟩

private theorem runs_handleRedrive_look (settings : Settings) (exhausted : Trigger) (request : TriggerRequest) :
    verification.Runs (fun _ _ => True) (fun _ _ => True) (.checking [exhausted] none)
      (handleRedrive settings exhausted request) := by
  apply Protocol.Runs.tryCatch
  apply (runs_redrive_look settings exhausted request).mono fun _ _ _ => trivial
  intro role failure refusal
  cases failure with
  | validation message =>
    rcases refusal with ⟨error, foreign⟩ | ⟨trade, rfl, done⟩
    · cases foreign
    · apply Protocol.Runs.bind
      apply Protocol.Runs.bind
      refine Protocol.Runs.perform ?_ ?_
      · intro _
        exact ⟨_, exhausted, trade, rfl, List.mem_singleton_self _, rfl, done⟩
      · intro answer
        cases answer with
        | ok value => exact .pure (.pure trivial)
        | error error => exact .throw trivial
  | network message => exact .throw trivial
  | contract message isTerminal => exact .throw trivial
  | foreign error => exact .throw trivial

private theorem runs_executeTrigger_look (settings : Settings) (request : TriggerRequest) :
    verification.Runs (fun _ _ => True) (fun _ _ => True) (.asking request.isRedrive)
      (executeTrigger settings request) := by
  have starts (role : Verifier) (actionKey : String) : verification.Runs (fun _ _ => True) (fun _ _ => True) role
      (startTrigger settings request actionKey) :=
    (quiet_startTrigger settings request actionKey role).mono (fun _ _ _ => trivial) fun _ _ _ => trivial
  unfold executeTrigger
  cases validateTradeId request.tradeId with
  | error failure => exact .throw trivial
  | ok _ =>
    apply Protocol.Runs.bind
    apply Protocol.Runs.pure
    apply Protocol.Runs.bind
    apply Protocol.Runs.bind
    apply Protocol.Runs.perform (by trivial)
    intro answer
    cases answer with
    | error error => exact .throw trivial
    | ok latest =>
      apply Protocol.Runs.pure
      cases latest with
      | none => exact starts _ _
      | some latest =>
        by_cases redrives : request.isRedrive = true ∧ latest.status = .exhaustedNeedsRedrive
        · simp only [verification, Verifier.after, if_pos redrives]
          split
          · exact .pure trivial
          · exact runs_handleRedrive_look settings latest request
        · simp only [if_neg redrives]
          split
          · exact .pure trivial
          · exact starts _ _

/-- The roles of a poll over a batch. -/
def Polls (rows : List Trigger) (role : Verifier) : Prop :=
  ∃ look, role = .checking rows look

private theorem Polls.after {effect : Effect} (polls : Polls rows role) (answer : Answer effect) :
    Polls rows (role.after effect answer) := by
  obtain ⟨look, rfl⟩ := polls
  cases effect
  case getTrade tradeId => cases answer <;> exact ⟨_, rfl⟩
  all_goals exact ⟨look, rfl⟩

/-- Between two looks a poll keeps its batch. -/
theorem polls_call {effect : Effect} {next : Answer effect → Job α} (polls : Polls rows role)
    (silent : role.permits effect)
    (rest : ∀ role answer, Polls rows role → verification.Runs returns throws role (next answer)) :
    verification.Runs returns throws role (perform effect >>= next) := by
  apply Protocol.Runs.bind
  exact Protocol.Runs.perform silent fun answer => rest _ answer (polls.after answer)

private theorem polls_updateTrigger (polls : Polls rows role) (permitted : role.permits (.updateTrigger key updates)) :
    verification.Runs (fun role _ => Polls rows role) (fun role _ => Polls rows role) role
      (updateTrigger key updates) := by
  apply polls_call polls permitted
  intro role answer polls
  cases answer with
  | ok value => exact .pure polls
  | error error => exact .throw polls

private theorem polls_shouldRunOnChainCheck (polls : Polls rows role) :
    verification.Runs (fun role _ => Polls rows role) throws role
      (shouldRunOnChainCheck tradeId now ageMs) := by
  unfold shouldRunOnChainCheck
  split
  · exact .pure polls
  · refine polls_call polls trivial ?_
    intro role lastCheckedAt polls
    have recorded : verification.Runs (fun role _ => Polls rows role) throws role
        (do perform (.recordOnChainCheck tradeId now); return true) :=
      polls_call polls trivial fun _ _ polls => .pure polls
    cases lastCheckedAt with
    | none => exact recorded
    | some lastCheckedAt =>
      dsimp only
      split
      · exact .pure polls
      · exact recorded

private theorem validateTradeState_unready (now : Nat) {trade : Trade} (moved : trade.status ≠ triggerType.source) :
    ∃ failure, validateTradeState now trade triggerType = .error failure := by
  have refused : ∃ failure, validateStatus triggerType trade = .error failure := by
    unfold validateStatus
    rw [if_pos moved]
    exact ⟨_, rfl⟩
  obtain ⟨failure, refused⟩ := refused
  cases triggerType with
  | releaseStage1 => exact ⟨failure, refused⟩
  | confirmArrival => exact ⟨failure, refused⟩
  | finalizeTrade =>
    refine ⟨failure, ?_⟩
    simp only [validateTradeState, validateFinalizeTrade, refused]
    rfl

/-- The fallback marks a row of the batch whose trade it has just seen elsewhere than in
the status the action starts from. -/
theorem polls_tryOnChainFallback (polls : Polls rows role) (member : trigger ∈ rows) :
    verification.Runs (fun role _ => Polls rows role) throws role (tryOnChainFallback trigger now ageMs) := by
  apply Protocol.Runs.bind
  apply (polls_shouldRunOnChainCheck polls).mono ?_ fun _ _ impossible => impossible
  intro role run polls
  cases run with
  | false => exact .pure polls
  | true =>
    apply Protocol.Runs.tryCatch
    obtain ⟨look, rfl⟩ := polls
    apply Protocol.Runs.bind
    apply runs_look
    · intro trade
      split
      · rename_i advanced
        rw [isTradeStateAdvanced_eq, decide_eq_true_eq] at advanced
        obtain ⟨failure, refused⟩ := validateTradeState_unready 0 advanced
        apply Protocol.Runs.bind
        apply (polls_updateTrigger ⟨_, rfl⟩ ?_).mono
        · intro role _ polls
          exact .pure polls
        · intro role _ polls
          exact .pure polls
        · intro _
          exact ⟨_, trigger, trade, rfl, member, rfl, .refused 0 failure refused⟩
      · exact .pure ⟨_, rfl⟩
    · intro trade failure _
      exact .pure ⟨_, rfl⟩
    · intro error
      exact .pure ⟨_, rfl⟩

private theorem polls_checkConfirmation (polls : Polls rows role) (member : trigger ∈ rows) :
    verification.Runs (fun role _ => Polls rows role) throws role (checkConfirmation trigger) := by
  unfold checkConfirmation
  split
  · exact .pure polls
  · apply Protocol.Runs.tryCatch
    refine polls_call polls trivial ?_
    intro role now polls
    apply Protocol.Runs.bind
    apply (polls_tryOnChainFallback polls member).mono ?_ fun _ _ impossible => impossible
    intro role verified polls
    cases verified with
    | true => exact .pure polls
    | false =>
      simp only [Bool.false_eq_true, if_false]
      split
      · apply (polls_updateTrigger polls (silent_update (by simp [timeoutUpdates, verifiedUpdates]) _)).mono
        · intro role _ polls
          exact polls
        · intro role _ polls
          exact .pure polls
      · refine polls_call polls trivial ?_
        intro role answer polls
        cases answer with
        | error error => exact .throw (.pure polls)
        | ok event =>
          apply Protocol.Runs.bind
          apply Protocol.Runs.pure
          cases event with
          | none => exact .pure polls
          | some event =>
            apply (polls_updateTrigger polls (silent_update (by simp [indexedUpdates, verifiedUpdates]) _)).mono
            · intro role _ polls
              exact polls
            · intro role _ polls
              exact .pure polls

private theorem polls_checkConfirmations (polls : Polls rows role) (batch : triggers ⊆ rows) :
    verification.Runs (fun role _ => Polls rows role) throws role (checkConfirmations triggers) := by
  induction triggers generalizing role with
  | nil => exact .pure polls
  | cons trigger rest ih =>
    rw [List.cons_subset] at batch
    apply Protocol.Runs.bind
    apply (polls_checkConfirmation polls batch.1).mono ?_ fun _ _ impossible => impossible
    intro role _ polls
    exact ih polls batch.2

private theorem runs_pollConfirmations_look :
    verification.Runs (fun _ _ => True) (fun _ _ => True) .fetching pollConfirmations := by
  apply Protocol.Runs.tryCatch
  apply Protocol.Runs.bind
  apply Protocol.Runs.perform (by trivial)
  intro answer
  cases answer with
  | error error => exact .throw (.pure trivial)
  | ok rows =>
    apply Protocol.Runs.bind
    apply Protocol.Runs.pure
    exact (polls_checkConfirmations ⟨none, rfl⟩ (List.Subset.refl rows)).mono (fun _ _ _ => trivial)
      fun _ _ impossible => impossible

end Verifying

/-- Every call of the service marks only rows whose trade it has looked at. -/
theorem service_verifies (settings : Settings) (outside : Outside κ) (call : Call) :
    verification.Follows (fun _ _ => True) call.verifier ((service settings outside).program call) := by
  have runs : verification.Runs (fun _ _ => True) (fun _ _ => True) call.verifier
      (answerCall settings call) := by
    cases call with
    | executeTrigger request =>
      apply Protocol.Runs.bind
      exact (runs_executeTrigger_look settings request).mono (fun _ _ _ => .pure trivial)
        fun _ _ _ => trivial
    | resumeAfterApproval key actor =>
      apply Protocol.Runs.bind
      exact (quiet_resumeAfterApproval settings key actor _).mono (fun _ _ _ => .pure trivial)
        fun _ _ _ => trivial
    | rejectPendingTrigger key actor reason =>
      apply Protocol.Runs.bind
      exact (quiet_rejectPendingTrigger key actor reason _).mono (fun _ _ _ => .pure trivial)
        fun _ _ _ => trivial
    | pollConfirmations =>
      apply Protocol.Runs.bind
      exact runs_pollConfirmations_look.mono (fun _ _ _ => .pure trivial) fun _ _ _ => trivial
  exact Protocol.Follows.mono runs fun _ _ _ => trivial

end Agroasys.Oracle
