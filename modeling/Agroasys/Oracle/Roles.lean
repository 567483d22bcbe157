import Agroasys.Oracle.Service

namespace Agroasys.Oracle

open Function Agroasys.Foundation

inductive Role where
  /-- `executeTrigger` before it has a row. -/
  | asking (request : TriggerRequest)
  /-- `handleRedrive` of this exhausted row. -/
  | redriving (exhausted : Trigger)
  /-- `createTrigger` after a unique violation. -/
  | conflicting (origin : Origin)
  /-- About to write `PENDING_APPROVAL` on this row; `own` if the call inserted it. -/
  | gating (key : String) (own : Bool)
  /-- In the retry loop for this row. -/
  | executing (key : String)
  | approving (key : String)
  | rejecting (key : String)
  /-- A decision that came too late. -/
  | reporting
  | fetching
  /-- A poll with these rows before it. -/
  | polling (keys : List String)
  | finished
  deriving DecidableEq

/-- The role in which a row is handed over. -/
def Origin.role (origin : Origin) (key : String) (own : Bool) : Role :=
  match origin with
  | .approval => .gating key own
  | .execution | .redrive _ => .executing key

/-- The statuses the retry loop writes. -/
def loopStatuses : List TriggerStatus :=
  [.executing, .submitted, .failed, .exhaustedNeedsRedrive, .terminalFailure]

/-- The loop's updates write a status and leave the columns of approvals and checks. -/
structure LoopUpdates (updates : UpdateTriggerData) (status : TriggerStatus) : Prop where
  writes : updates.status = some status
  ofLoop : status ∈ loopStatuses
  transaction : updates.txHash.isSome = decide (status = .submitted)
  unverified : updates.onChainVerified = none

/-- An update of the worker. -/
inductive WorkerUpdates : UpdateTriggerData → Prop where
  | verified : WorkerUpdates verifiedUpdates
  | indexed (event : ConfirmationEvent) : WorkerUpdates (indexedUpdates event)
  | timeout (elapsed : hardTimeoutMs < ageMs) : WorkerUpdates (timeoutUpdates ageMs)

/-- The rows a request may insert. -/
structure Requested (request : TriggerRequest) (data : CreateTriggerData) : Prop where
  actionKey : data.actionKey = generateActionKey request.triggerType.value request.tradeId
  tradeId : data.tradeId = request.tradeId
  triggerType : data.triggerType = request.triggerType
  status : data.status = .pending

/-- The row a re-drive may insert. -/
structure Repeats (exhausted : Trigger) (data : CreateTriggerData) : Prop where
  actionKey : data.actionKey = exhausted.actionKey
  tradeId : data.tradeId = exhausted.tradeId
  triggerType : data.triggerType = exhausted.triggerType
  status : data.status = .pending

/-- Which insert `executeTrigger` makes. -/
def chosenOrigin (manual : Bool) (request : TriggerRequest) : Origin :=
  if manual = true ∧ request.isRedrive = false then .approval else .execution

def Role.permits (manual : Bool) : Role → Effect → Prop
  | .finished, _ => False
  | _, .now => True
  | .asking _, .randomBytes => True
  | .asking _, .getLatestTriggerByActionKey _ => True
  | .asking _, .getTriggerByIdempotencyKey _ => True
  | .asking _, .getTrade _ => True
  | .asking request, .insertTrigger origin data =>
    origin = chosenOrigin manual request ∧ Requested request data
  | .redriving _, .randomBytes => True
  | .redriving _, .getTrade _ => True
  | .redriving exhausted, .insertTrigger origin data =>
    origin = .redrive exhausted ∧ Repeats exhausted data
  | .redriving exhausted, .updateTrigger key updates =>
    key = exhausted.idempotencyKey ∧ updates = verifiedUpdates
  | .conflicting _, .getLatestTriggerByActionKey _ => True
  | .gating row _, .updateTrigger key updates =>
    key = row ∧ updates = { status := some .pendingApproval }
  | .executing row, .logAttempt key _ => key = row
  | .executing _, .getTrade _ => True
  | .executing row, .updateTrigger key updates => key = row ∧ ∃ status, LoopUpdates updates status
  | .executing row, .sendTransaction key _ _ => key = row
  | .executing _, .jitter _ => True
  | .executing _, .sleep _ => True
  | .approving row, .approveTrigger key _ => key = row
  | .rejecting row, .rejectTrigger key _ _ => key = row
  | .reporting, .getTriggerByIdempotencyKey _ => True
  | .fetching, .getTriggersByStatus status _ => status = .submitted
  | .polling _, .lastOnChainCheck _ => True
  | .polling _, .recordOnChainCheck _ _ => True
  | .polling _, .getTrade _ => True
  | .polling _, .findConfirmationEvent _ _ => True
  | .polling keys, .updateTrigger key updates => key ∈ keys ∧ WorkerUpdates updates
  | _, _ => False

/-- After the latest row of an action was read. -/
def Role.read (role : Role) (latest : Option Trigger) : Role :=
  match role, latest with
  | .asking request, some latest =>
    if request.isRedrive = true ∧ latest.status = .exhaustedNeedsRedrive then .redriving latest
    else role
  | .conflicting origin, some existing => origin.role existing.idempotencyKey false
  | .conflicting _, none => .finished
  | _, _ => role

/-- After an update. The retry loop goes on after `EXECUTING`, after a `SUBMITTED`
that was not acknowledged and after a `FAILED` that was; the worker goes on with a
row after a failed verification. -/
def Role.wrote (role : Role) (key : String) (updates : UpdateTriggerData) (acknowledged : Bool) : Role :=
  match role with
  | .executing _ =>
    if updates.status = some .executing ∨ (updates.status = some .submitted ∧ acknowledged = false) ∨
        (updates.status = some .failed ∧ acknowledged = true) then role
    else .finished
  | .polling keys =>
    if updates = verifiedUpdates ∧ acknowledged = false then role else .polling (keys.erase key)
  | _ => .finished

def Role.after (role : Role) (effect : Effect) (answer : Answer effect) : Role :=
  match effect, answer with
  | .getLatestTriggerByActionKey _, .ok latest => role.read latest
  | .getLatestTriggerByActionKey _, .error _ => .finished
  | .insertTrigger origin _, .ok row => origin.role row.idempotencyKey true
  | .insertTrigger origin _, .error error =>
    if error.code = uniqueViolation then .conflicting origin else .finished
  | .updateTrigger key updates, .ok _ => role.wrote key updates true
  | .updateTrigger key updates, .error _ => role.wrote key updates false
  | .approveTrigger _ _, .ok (some row) => .executing row.idempotencyKey
  | .approveTrigger _ _, .ok none => .reporting
  | .approveTrigger _ _, .error _ => .finished
  | .rejectTrigger _ _ _, .ok none => .reporting
  | .rejectTrigger _ _ _, _ => .finished
  | .getTriggersByStatus _ _, .ok rows => .polling (rows.map Trigger.idempotencyKey)
  | .getTriggersByStatus _ _, .error _ => .finished
  | _, _ => role

def roles (manual : Bool) : Protocol Effect Answer Role where
  permits := Role.permits manual
  after := Role.after

def Call.role : Call → Role
  | .executeTrigger request => .asking request
  | .resumeAfterApproval key _ => .approving key
  | .rejectPendingTrigger key _ _ => .rejecting key
  | .pollConfirmations => .fetching

section Follows

variable {manual : Bool} {returns : Role → α → Prop} {throws : Role → Failure → Prop}

theorem runs_perform {effect : Effect} {returns : Role → Answer effect → Prop}
    (permitted : role.permits manual effect) (answered : ∀ answer, returns (role.after effect answer) answer) :
    (roles manual).Runs returns throws role (perform effect) :=
  Protocol.Runs.perform permitted answered

theorem runs_await {Part : Type} {protocol : Protocol Effect Answer Part} {returns : Part → α → Prop}
    {throws : Part → Failure → Prop} {part : Part} {answer : Except ForeignError α}
    (returned : ∀ value, answer = .ok value → returns part value)
    (raised : ∀ error, answer = .error error → throws part (.foreign error)) :
    protocol.Runs returns throws part (await answer) := by
  cases answer with
  | ok value => exact .pure (returned value rfl)
  | error error => exact .throw (raised error rfl)

theorem runs_check {Part : Type} {protocol : Protocol Effect Answer Part} {returns : Part → α → Prop}
    {throws : Part → Failure → Prop} {part : Part} {result : Except Failure α}
    (returned : ∀ value, result = .ok value → returns part value)
    (raised : ∀ failure, result = .error failure → throws part failure) :
    protocol.Runs returns throws part (check result) := by
  cases result with
  | ok value => exact .pure (returned value rfl)
  | error failure => exact .throw (raised failure rfl)

theorem runs_updateTrigger {returns : Role → Unit → Prop}
    (permitted : role.permits manual (.updateTrigger key updates))
    (returned : returns (role.wrote key updates true) ())
    (raised : ∀ error, throws (role.wrote key updates false) (.foreign error)) :
    (roles manual).Runs returns throws role (updateTrigger key updates) := by
  apply Protocol.Runs.bind
  apply runs_perform permitted
  intro answer
  cases answer with
  | ok value => exact .pure returned
  | error error => exact .throw (raised error)

private theorem runs_getLatestTriggerByActionKey {returns : Role → Option Trigger → Prop}
    (permitted : role.permits manual (.getLatestTriggerByActionKey actionKey))
    (returned : ∀ latest, returns (role.read latest) latest)
    (raised : ∀ error, throws .finished (.foreign error)) :
    (roles manual).Runs returns throws role (getLatestTriggerByActionKey actionKey) := by
  apply Protocol.Runs.bind
  apply runs_perform permitted
  intro answer
  cases answer with
  | ok latest => exact .pure (returned latest)
  | error error => exact .throw (raised error)

private theorem runs_getTriggerByIdempotencyKey {returns : Role → Option Trigger → Prop}
    (permitted : role.permits manual (.getTriggerByIdempotencyKey key))
    (returned : ∀ existing, returns role existing) (raised : ∀ error, throws role (.foreign error)) :
    (roles manual).Runs returns throws role (getTriggerByIdempotencyKey key) := by
  apply Protocol.Runs.bind
  apply runs_perform permitted
  intro answer
  exact runs_await (fun existing _ => returned existing) fun error _ => raised error

theorem runs_getTrade {returns : Role → Trade → Prop} (permitted : role.permits manual (.getTrade tradeId))
    (returned : ∀ trade, returns role trade) (raised : ∀ failure, throws role failure) :
    (roles manual).Runs returns throws role (getTrade tradeId) := by
  apply Protocol.Runs.bind
  apply runs_perform permitted
  intro answer
  apply Protocol.Runs.bind
  apply runs_await
  · intro trade _
    exact runs_check (fun trade _ => returned trade) fun failure _ => raised failure
  · intro error _
    exact raised _

theorem runs_validateState {returns : Role → Unit → Prop} (permitted : role.permits manual .now)
    (returned : returns role ()) (raised : ∀ failure, throws role failure) :
    (roles manual).Runs returns throws role (validateState trade triggerType) := by
  apply Protocol.Runs.bind
  apply runs_perform permitted
  intro now
  exact runs_check (fun _ _ => returned) fun failure _ => raised failure

/-- An attempt that fails leaves its row in the loop. -/
theorem runs_attemptTrigger (trigger : Trigger) (actionKey : String) (attempt : Nat) :
    (roles manual).Runs (fun _ _ => True) (fun role _ => role = .executing trigger.idempotencyKey)
      (.executing trigger.idempotencyKey) (attemptTrigger trigger actionKey attempt) := by
  apply Protocol.Runs.bind
  apply runs_perform (by exact rfl)
  intro _
  apply Protocol.Runs.bind
  apply runs_getTrade (by trivial) ?_ fun _ => rfl
  intro trade
  apply Protocol.Runs.bind
  apply runs_validateState (by trivial) ?_ fun _ => rfl
  apply Protocol.Runs.bind
  apply runs_updateTrigger (by exact ⟨rfl, _, ⟨rfl, by decide, rfl, rfl⟩⟩) ?_ fun _ => rfl
  apply Protocol.Runs.bind
  apply runs_perform (by exact rfl)
  intro answer
  apply Protocol.Runs.bind
  apply runs_await ?_ fun _ _ => rfl
  intro result _
  apply Protocol.Runs.bind
  apply runs_perform (by trivial)
  intro submittedAt
  apply Protocol.Runs.bind
  apply runs_updateTrigger (by exact ⟨rfl, _, ⟨rfl, by decide, rfl, rfl⟩⟩) ?_ fun _ => rfl
  exact .pure trivial

theorem failureUpdates_loop (error : OracleError) (attempt maxAttempts : Nat) :
    LoopUpdates (failureUpdates error (determineNextStatus error attempt maxAttempts) attempt)
      (determineNextStatus error attempt maxAttempts) := by
  constructor
  · rfl
  · rcases determineNextStatus_cases error attempt maxAttempts with ⟨_, same⟩ | ⟨_, _, same⟩ | ⟨_, _, same⟩ <;>
      simp [same, loopStatuses]
  · rcases determineNextStatus_cases error attempt maxAttempts with ⟨_, same⟩ | ⟨_, _, same⟩ | ⟨_, _, same⟩ <;>
      simp [same, failureUpdates]
  · rfl

/-- What leaves the retry loop was thrown by a client. -/
def Foreign (failure : Failure) : Prop :=
  ∃ error, failure = .foreign error

private theorem runs_waitBackoff {returns : Role → Unit → Prop} (executing : role = .executing key)
    (returned : returns role ()) : (roles manual).Runs returns throws role (waitBackoff settings attempt) := by
  subst executing
  apply Protocol.Runs.bind
  apply runs_perform (by trivial)
  intro jitter
  apply runs_perform (by trivial)
  intro _
  exact returned

private theorem runs_retryFrom (settings : Settings) (trigger : Trigger) (actionKey : String)
    (attempt remaining : Nat) :
    (roles manual).Runs (fun _ _ => True) (fun _ failure => Foreign failure) (.executing trigger.idempotencyKey)
      (retryFrom settings trigger actionKey attempt remaining) := by
  induction remaining generalizing attempt with
  | zero => exact .throw ⟨_, rfl⟩
  | succ remaining ih =>
    apply Protocol.Runs.tryCatch
    apply (runs_attemptTrigger trigger actionKey attempt).mono fun _ _ _ => trivial
    intro role failure executing
    subst executing
    apply Protocol.Runs.bind
    apply runs_updateTrigger (by exact ⟨rfl, _, failureUpdates_loop _ _ _⟩) ?_ fun _ => ⟨_, rfl⟩
    rcases determineNextStatus_cases (classifyError failure) attempt settings.maxAttempts with
      ⟨_, same⟩ | ⟨_, _, same⟩ | ⟨retryable, more, same⟩
    · rw [if_pos same]
      exact .pure trivial
    · rw [if_neg (by simp [same]), if_pos same]
      exact .pure trivial
    · rw [if_neg (by simp [same]), if_neg (by simp [same]), if_pos ⟨more, retryable⟩]
      have continued : Role.wrote (.executing trigger.idempotencyKey) trigger.idempotencyKey
          (failureUpdates (classifyError failure)
            (determineNextStatus (classifyError failure) attempt settings.maxAttempts) attempt) true =
          .executing trigger.idempotencyKey := by
        simp [Role.wrote, failureUpdates, same]
      rw [continued]
      apply Protocol.Runs.bind
      exact runs_waitBackoff rfl (ih (attempt + 1))

theorem runs_executeWithRetry (settings : Settings) (trigger : Trigger) (actionKey : String) :
    (roles manual).Runs (fun _ _ => True) (fun _ failure => Foreign failure) (.executing trigger.idempotencyKey)
      (executeWithRetry settings trigger actionKey) :=
  runs_retryFrom settings trigger actionKey 1 settings.maxAttempts

/-- The row `createTrigger` hands over is the inserted one or another call's. -/
theorem runs_createTrigger {returns : Role → Trigger → Prop}
    (permitted : role.permits manual (.insertTrigger origin data))
    (returned : ∀ trigger own, returns (origin.role trigger.idempotencyKey own) trigger)
    (raised : ∀ role failure, Foreign failure → throws role failure) :
    (roles manual).Runs returns throws role (createTrigger origin data) := by
  apply Protocol.Runs.bind
  apply runs_perform permitted
  intro answer
  cases answer with
  | ok row => exact .pure (returned row true)
  | error error =>
    by_cases unique : error.code = uniqueViolation
    · simp only [Role.after, if_pos unique]
      apply Protocol.Runs.bind
      apply runs_getLatestTriggerByActionKey (by trivial) ?_ fun _ => raised _ _ ⟨_, rfl⟩
      intro latest
      cases latest with
      | none => exact .throw (raised _ _ ⟨_, rfl⟩)
      | some existing => exact .pure (returned existing false)
    · simp only [Role.after, if_neg unique]
      exact .throw (raised _ _ ⟨_, rfl⟩)

private theorem runs_redrive (settings : Settings) (exhausted : Trigger) (request : TriggerRequest) :
    (roles manual).Runs (fun _ _ => True) (fun role failure => role = .redriving exhausted ∨ Foreign failure)
      (.redriving exhausted) (redrive settings exhausted request) := by
  apply Protocol.Runs.bind
  apply runs_getTrade (by trivial) ?_ fun _ => .inl rfl
  intro trade
  apply Protocol.Runs.bind
  apply runs_validateState (by trivial) ?_ fun _ => .inl rfl
  apply Protocol.Runs.bind
  apply runs_perform (by trivial)
  intro newRequestId
  apply Protocol.Runs.bind
  apply runs_perform (by trivial)
  intro random
  apply Protocol.Runs.bind
  apply runs_createTrigger (by exact ⟨rfl, rfl, rfl, rfl, rfl⟩) ?_ fun _ _ => .inr
  intro trigger own
  exact (runs_executeWithRetry settings trigger exhausted.actionKey).mono (fun _ _ _ => trivial)
    fun _ _ => .inr

private theorem runs_handleRedrive (settings : Settings) (exhausted : Trigger) (request : TriggerRequest) :
    (roles manual).Runs (fun _ _ => True) (fun _ _ => True) (.redriving exhausted)
      (handleRedrive settings exhausted request) := by
  apply Protocol.Runs.tryCatch
  apply (runs_redrive settings exhausted request).mono fun _ _ _ => trivial
  intro role failure thrown
  cases failure with
  | validation message =>
    rcases thrown with redriving | ⟨error, foreign⟩
    · subst redriving
      apply Protocol.Runs.bind
      apply runs_updateTrigger (by exact ⟨rfl, rfl⟩) ?_ fun _ => trivial
      exact .pure trivial
    · cases foreign
  | network message => exact .throw trivial
  | contract message isTerminal => exact .throw trivial
  | foreign error => exact .throw trivial

private theorem runs_createNewTrigger {returns : Role → Trigger → Prop}
    (chosen : origin = chosenOrigin manual request)
    (returned : ∀ trigger own, returns (origin.role trigger.idempotencyKey own) trigger)
    (raised : ∀ role failure, throws role failure) :
    (roles manual).Runs returns throws (.asking request) (createNewTrigger origin request
      (generateActionKey request.triggerType.value request.tradeId)) := by
  apply Protocol.Runs.bind
  apply runs_perform (by trivial)
  intro random
  exact runs_createTrigger ⟨chosen, rfl, rfl, rfl, rfl⟩ returned fun role failure _ =>
    raised role failure

private theorem runs_createAndExecute (settings : Settings) (request : TriggerRequest) :
    (roles settings.manualApprovalEnabled).Runs (fun _ _ => True) (fun _ _ => True) (.asking request)
      (createAndExecute settings request
        (generateActionKey request.triggerType.value request.tradeId)) := by
  apply Protocol.Runs.bind
  apply runs_getTrade (by trivial) ?_ fun _ => trivial
  intro trade
  apply Protocol.Runs.bind
  apply runs_validateState (by trivial) ?_ fun _ => trivial
  split
  · rename_i gated
    apply Protocol.Runs.bind
    apply runs_createNewTrigger (by simp [chosenOrigin, gated]) ?_ fun _ _ => trivial
    intro trigger own
    apply Protocol.Runs.bind
    apply runs_updateTrigger (by exact ⟨rfl, rfl⟩) ?_ fun _ => trivial
    exact .pure trivial
  · rename_i ungated
    apply Protocol.Runs.bind
    apply runs_createNewTrigger (by rw [chosenOrigin, if_neg ungated]) ?_ fun _ _ => trivial
    intro trigger own
    exact (runs_executeWithRetry settings trigger _).mono (fun _ _ _ => trivial) fun _ _ _ => trivial

private theorem runs_startTrigger (settings : Settings) (request : TriggerRequest) :
    (roles settings.manualApprovalEnabled).Runs (fun _ _ => True) (fun _ _ => True) (.asking request)
      (startTrigger settings request (generateActionKey request.triggerType.value request.tradeId)) := by
  apply Protocol.Runs.bind
  apply runs_perform (by trivial)
  intro random
  apply Protocol.Runs.bind
  apply runs_getTriggerByIdempotencyKey (by trivial) ?_ fun _ => trivial
  intro existing
  cases existing with
  | some existing => exact .pure trivial
  | none =>
    apply Protocol.Runs.tryCatch
    apply (runs_createAndExecute settings request).mono fun _ _ _ => trivial
    intro role failure _
    split
    · exact .throw trivial
    · exact .throw trivial

private theorem runs_executeTrigger (settings : Settings) (request : TriggerRequest) :
    (roles settings.manualApprovalEnabled).Runs (fun _ _ => True) (fun _ _ => True) (.asking request)
      (executeTrigger settings request) := by
  apply Protocol.Runs.bind
  apply runs_check ?_ fun _ _ => trivial
  intro _ _
  apply Protocol.Runs.bind
  apply runs_getLatestTriggerByActionKey (by trivial) ?_ fun _ => trivial
  intro latest
  cases latest with
  | none => exact runs_startTrigger settings request
  | some latest =>
    dsimp only
    by_cases redrives : request.isRedrive = true ∧ latest.status = .exhaustedNeedsRedrive
    · rw [Role.read, if_pos redrives, if_pos redrives]
      split
      · exact .pure trivial
      · exact runs_handleRedrive settings latest request
    · rw [Role.read, if_neg redrives, if_neg redrives]
      split
      · exact .pure trivial
      · exact runs_startTrigger settings request

private theorem runs_alreadyProcessed (key : String) :
    (roles manual).Runs (fun _ _ => True) (fun _ _ => True) .reporting (alreadyProcessed key) := by
  apply Protocol.Runs.bind
  apply runs_getTriggerByIdempotencyKey (by trivial) ?_ fun _ => trivial
  intro existing
  cases existing with
  | none => exact .throw trivial
  | some existing => exact .pure trivial

private theorem runs_resumeAfterApproval (settings : Settings) (key actor : String) :
    (roles manual).Runs (fun _ _ => True) (fun _ _ => True) (.approving key)
      (resumeAfterApproval settings key actor) := by
  apply Protocol.Runs.bind
  apply runs_perform (by exact rfl)
  intro answer
  apply Protocol.Runs.bind
  cases answer with
  | error error => exact .throw trivial
  | ok updated =>
    cases updated with
    | none => exact runs_alreadyProcessed key
    | some updated =>
      exact (runs_executeWithRetry settings updated _).mono (fun _ _ _ => trivial)
        fun _ _ _ => trivial

private theorem runs_rejectPendingTrigger (key actor : String) (reason : Option String) :
    (roles manual).Runs (fun _ _ => True) (fun _ _ => True) (.rejecting key)
      (rejectPendingTrigger key actor reason) := by
  apply Protocol.Runs.bind
  apply runs_perform (by exact rfl)
  intro answer
  apply Protocol.Runs.bind
  cases answer with
  | error error => exact .throw trivial
  | ok updated =>
    cases updated with
    | none => exact runs_alreadyProcessed key
    | some updated => exact .pure trivial

private theorem runs_shouldRunOnChainCheck {returns : Role → Bool → Prop} {tradeId : String}
    (returned : ∀ run, returns (.polling keys) run) :
    (roles manual).Runs returns throws (.polling keys) (shouldRunOnChainCheck tradeId now ageMs) := by
  have recorded : (roles manual).Runs returns throws (.polling keys)
      (do perform (.recordOnChainCheck tradeId now); return true) := by
    apply Protocol.Runs.bind
    apply runs_perform (by trivial)
    intro _
    exact .pure (returned true)
  unfold shouldRunOnChainCheck
  split
  · exact .pure (returned false)
  · apply Protocol.Runs.bind
    apply runs_perform (by trivial)
    intro lastCheckedAt
    cases lastCheckedAt with
    | none => exact recorded
    | some lastCheckedAt =>
      dsimp only
      split
      · exact .pure (returned false)
      · exact recorded

/-- The verification writes the row at most once, and then the poll is done with it. -/
theorem runs_tryOnChainFallback (trigger : Trigger) (member : trigger.idempotencyKey ∈ keys) :
    (roles manual).Runs
      (fun role verified => role = .polling keys ∨
        (verified = true ∧ role = .polling (keys.erase trigger.idempotencyKey)))
      throws (.polling keys) (tryOnChainFallback trigger now ageMs) := by
  apply Protocol.Runs.bind
  apply runs_shouldRunOnChainCheck
  intro run
  cases run with
  | false => exact .pure (.inl rfl)
  | true =>
    apply Protocol.Runs.tryCatch
    apply Protocol.Runs.bind
    apply runs_getTrade (by trivial) ?_ fun _ => .pure (.inl rfl)
    intro trade
    split
    · apply Protocol.Runs.bind
      apply runs_updateTrigger (by exact ⟨member, .verified⟩)
      · exact .pure (.inr ⟨rfl, by simp [Role.wrote]⟩)
      · intro error
        exact .pure (.inl (by simp [Role.wrote]))
    · exact .pure (.inl rfl)

/-- Once a row was checked the poll has only the others before it. -/
theorem runs_checkConfirmation (trigger : Trigger) (member : trigger.idempotencyKey ∈ keys) :
    (roles manual).Runs
      (fun role _ => role = .polling keys ∨ role = .polling (keys.erase trigger.idempotencyKey))
      throws (.polling keys) (checkConfirmation trigger) := by
  unfold checkConfirmation
  split
  · exact .pure (.inl rfl)
  · apply Protocol.Runs.tryCatch
    apply Protocol.Runs.bind
    apply runs_perform (by trivial)
    intro now
    apply Protocol.Runs.bind
    apply (runs_tryOnChainFallback trigger member).mono ?_ fun _ _ impossible => impossible
    intro role verified outcome
    have unverified {updates : UpdateTriggerData} (other : updates ≠ verifiedUpdates)
        (acknowledged : Bool) :
        Role.wrote (.polling keys) trigger.idempotencyKey updates acknowledged =
          .polling (keys.erase trigger.idempotencyKey) := by
      simp [Role.wrote, other]
    rcases outcome with rfl | ⟨rfl, rfl⟩
    · cases verified with
      | true => exact .pure (.inl rfl)
      | false =>
        simp only [Bool.false_eq_true, if_false]
        split
        · rename_i elapsed
          have timeout : timeoutUpdates (now - trigger.submittedAt.getD 0) ≠ verifiedUpdates := by
            simp [timeoutUpdates, verifiedUpdates]
          apply runs_updateTrigger (by exact ⟨member, .timeout elapsed⟩)
          · exact .inr (unverified timeout true)
          · intro error
            exact .pure (.inr (unverified timeout false))
        · apply Protocol.Runs.bind
          apply runs_perform (by trivial)
          intro answer
          apply Protocol.Runs.bind
          apply runs_await ?_ fun _ _ => .pure (.inl rfl)
          intro event _
          cases event with
          | none => exact .pure (.inl rfl)
          | some event =>
            have indexed : indexedUpdates event ≠ verifiedUpdates := by
              simp [indexedUpdates, verifiedUpdates]
            apply runs_updateTrigger (by exact ⟨member, .indexed event⟩)
            · exact .inr (unverified indexed true)
            · intro error
              exact .pure (.inr (unverified indexed false))
    · exact .pure (.inr rfl)

private theorem runs_checkConfirmations (triggers : List Trigger)
    (before : (triggers.map Trigger.idempotencyKey).Subperm keys) :
    (roles manual).Runs (fun _ _ => True) throws (.polling keys) (checkConfirmations triggers) := by
  induction triggers generalizing keys with
  | nil => exact .pure trivial
  | cons trigger rest ih =>
    apply Protocol.Runs.bind
    apply (runs_checkConfirmation trigger (before.subset List.mem_cons_self)).mono ?_
      fun _ _ impossible => impossible
    intro role _ outcome
    rw [List.map_cons] at before
    rcases outcome with rfl | rfl
    · exact ih ((List.sublist_cons_self _ _).subperm.trans before)
    · apply ih
      simpa using before.erase trigger.idempotencyKey

private theorem runs_pollConfirmations :
    (roles manual).Runs (fun _ _ => True) (fun _ _ => True) .fetching pollConfirmations := by
  apply Protocol.Runs.tryCatch
  apply Protocol.Runs.bind
  apply runs_perform (by exact rfl)
  intro answer
  apply Protocol.Runs.bind
  cases answer with
  | error error => exact .throw (.pure trivial)
  | ok triggers =>
    exact (runs_checkConfirmations triggers (List.Subperm.refl _)).mono (fun _ _ _ => trivial)
      fun _ _ impossible => impossible

end Follows

/-- Every call of the service plays its role. -/
theorem service_follows (settings : Settings) (outside : Outside κ) (call : Call) :
    (roles settings.manualApprovalEnabled).Follows (fun _ _ => True) call.role
      ((service settings outside).program call) := by
  have runs : (roles settings.manualApprovalEnabled).Runs (fun _ _ => True) (fun _ _ => True) call.role
      (answerCall settings call) := by
    cases call with
    | executeTrigger request =>
      apply Protocol.Runs.bind
      exact (runs_executeTrigger settings request).mono (fun _ _ _ => .pure trivial) fun _ _ _ => trivial
    | resumeAfterApproval key actor =>
      apply Protocol.Runs.bind
      exact (runs_resumeAfterApproval settings key actor).mono (fun _ _ _ => .pure trivial)
        fun _ _ _ => trivial
    | rejectPendingTrigger key actor reason =>
      apply Protocol.Runs.bind
      exact (runs_rejectPendingTrigger key actor reason).mono (fun _ _ _ => .pure trivial)
        fun _ _ _ => trivial
    | pollConfirmations =>
      apply Protocol.Runs.bind
      exact runs_pollConfirmations.mono (fun _ _ _ => .pure trivial)
        fun _ _ _ => trivial
  exact Protocol.Follows.mono runs fun _ _ _ => trivial

end Agroasys.Oracle
