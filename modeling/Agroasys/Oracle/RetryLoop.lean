import Agroasys.Oracle.Bench

namespace Agroasys.Oracle

open Agroasys.Foundation

/-- The answer to a write, and whether it took effect if the answer was lost. -/
inductive Reply where
  | acknowledged
  | lost (error : ForeignError) (applied : Bool)
  deriving DecidableEq

def Reply.answer : Reply → Except ForeignError Unit
  | .acknowledged => .ok ()
  | .lost error _ => .error error

def Reply.applied : Reply → Bool
  | .acknowledged => true
  | .lost _ applied => applied

/-- What the calls of one attempt meet. `mined` says whether its transaction takes
effect on chain, whatever the answer. -/
structure Outcome where
  getTrade : Except ForeignError Trade
  checkedAt : Nat
  executing : Reply
  transaction : Except ForeignError BlockchainResult
  mined : Bool
  submittedAt : Nat
  submitted : Reply
  failed : Reply
  jitter : Nat

/-- The row of the loop, whether one of its transactions took effect, and the attempt
it is at. -/
structure LoopState where
  row : Trigger
  mined : Bool
  attempt : Nat
  sent : Bool

/-- The reply to the write of a status. -/
def Outcome.reply (outcome : Outcome) (updates : UpdateTriggerData) : Reply :=
  match updates.status with
  | some .executing => outcome.executing
  | some .submitted => outcome.submitted
  | _ => outcome.failed

/-- The calls the loop does not make are not answered. -/
def unanswered : ForeignError := ⟨"", "", none, none⟩

def LoopState.serve (outcomes : Nat → Outcome) (effect : Effect) (state : LoopState) :
    Answer effect × LoopState :=
  let outcome := outcomes state.attempt
  match effect with
  | .logAttempt _ attempt => ((), { state with attempt := attempt, sent := false })
  | .getTrade _ => (outcome.getTrade, state)
  | .now => (if state.sent then outcome.submittedAt else outcome.checkedAt, state)
  | .updateTrigger _ updates =>
    ((outcome.reply updates).answer,
      if (outcome.reply updates).applied then { state with row := updates.apply state.row } else state)
  | .sendTransaction _ _ _ =>
    (outcome.transaction, { state with mined := state.mined || outcome.mined, sent := true })
  | .jitter _ => (outcome.jitter, state)
  | .sleep _ => ((), state)
  | .getLatestTriggerByActionKey _ => (.error unanswered, state)
  | .getTriggerByIdempotencyKey _ => (.error unanswered, state)
  | .insertTrigger _ _ => (.error unanswered, state)
  | .approveTrigger _ _ => (.error unanswered, state)
  | .rejectTrigger _ _ _ => (.error unanswered, state)
  | .getTriggersByStatus _ _ => (.error unanswered, state)
  | .findConfirmationEvent _ _ => (.error unanswered, state)
  | .lastOnChainCheck _ => (none, state)
  | .recordOnChainCheck _ _ => ((), state)
  | .randomBytes => ("", state)

/-- The check before an attempt writes anything. -/
def Outcome.checked (outcome : Outcome) (trigger : Trigger) : Except Failure Unit := do
  let trade ← outcome.getTrade.mapError .foreign >>= checkTrade trigger.tradeId
  validateTradeState outcome.checkedAt trade trigger.triggerType

/-- What an attempt throws. -/
def Outcome.thrown (outcome : Outcome) (trigger : Trigger) : Option Failure :=
  match outcome.checked trigger with
  | .error failure => some failure
  | .ok _ =>
    match outcome.executing with
    | .lost error _ => some (.foreign error)
    | .acknowledged =>
      match outcome.transaction with
      | .error error => some (.foreign error)
      | .ok _ =>
        match outcome.submitted with
        | .lost error _ => some (.foreign error)
        | .acknowledged => none

/-- The attempt sends its transaction. -/
def Outcome.sends (outcome : Outcome) (trigger : Trigger) : Bool :=
  (outcome.checked trigger).isOk && outcome.executing = .acknowledged

/-- The attempt's write of `SUBMITTED` takes effect. -/
def Outcome.submits (outcome : Outcome) (trigger : Trigger) : Bool :=
  outcome.sends trigger && outcome.transaction.isOk && outcome.submitted.applied

/-- The row's status after an attempt's `try` block. -/
def Outcome.reaches (outcome : Outcome) (trigger : Trigger) (before : TriggerStatus) : TriggerStatus :=
  if outcome.submits trigger then .submitted
  else if (outcome.checked trigger).isOk && outcome.executing.applied then .executing
  else before

section Attempt

variable {outcomes : Nat → Outcome} {state : LoopState} {trigger : Trigger}

theorem evaluate_call (effect : Effect) (next : Answer effect → Job α) (state : LoopState) :
    evaluate (LoopState.serve outcomes) (perform effect >>= next) state =
      evaluate (LoopState.serve outcomes) (next (state.serve outcomes effect).1)
        (state.serve outcomes effect).2 := rfl

@[simp] theorem evaluate_await (answer : Except ForeignError α) (state : LoopState) :
    evaluate (LoopState.serve outcomes) (await answer) state = (answer.mapError .foreign, state) := by
  cases answer <;> rfl

@[simp] theorem evaluate_check (result : Except Failure α) (state : LoopState) :
    evaluate (LoopState.serve outcomes) (check result) state = (result, state) := by
  cases result <;> rfl

private theorem evaluate_updateTrigger (key : String) (updates : UpdateTriggerData) (state : LoopState) :
    evaluate (LoopState.serve outcomes) (updateTrigger key updates) state =
      (((outcomes state.attempt).reply updates).answer.mapError .foreign,
        if ((outcomes state.attempt).reply updates).applied then
          { state with row := updates.apply state.row } else state) := by
  unfold updateTrigger
  rw [evaluate_call, evaluate_await]
  rfl

private theorem evaluate_getTrade (tradeId : String) (state : LoopState) :
    evaluate (LoopState.serve outcomes) (getTrade tradeId) state =
      ((outcomes state.attempt).getTrade.mapError .foreign >>= checkTrade tradeId, state) := by
  unfold getTrade
  rw [evaluate_call, evaluate_bind, evaluate_await]
  simp only [LoopState.serve]
  cases (outcomes state.attempt).getTrade with
  | error error => rfl
  | ok trade => exact evaluate_check _ _

private theorem evaluate_validateState (trade : Trade) (fresh : state.sent = false) :
    evaluate (LoopState.serve outcomes) (validateState trade trigger.triggerType) state =
      (validateTradeState (outcomes state.attempt).checkedAt trade trigger.triggerType, state) := by
  unfold validateState
  rw [evaluate_call, evaluate_check]
  simp only [LoopState.serve, fresh]
  rfl

/-- The two calls that look at the trade. -/
theorem evaluate_checks (next : Job α) (fresh : state.sent = false) :
    evaluate (LoopState.serve outcomes) (do
        let trade ← getTrade trigger.tradeId
        validateState trade trigger.triggerType
        next) state =
      match (outcomes state.attempt).checked trigger with
      | .ok _ => evaluate (LoopState.serve outcomes) next state
      | .error failure => (.error failure, state) := by
  unfold Outcome.checked
  rw [evaluate_bind, evaluate_getTrade]
  cases (outcomes state.attempt).getTrade.mapError .foreign >>= checkTrade trigger.tradeId with
  | error failure => rfl
  | ok trade =>
    dsimp only
    rw [evaluate_bind, evaluate_validateState trade fresh]
    change _ = match validateTradeState (outcomes state.attempt).checkedAt trade trigger.triggerType with
      | .ok _ => evaluate (LoopState.serve outcomes) next state
      | .error failure => (.error failure, state)
    cases validateTradeState (outcomes state.attempt).checkedAt trade trigger.triggerType <;> rfl

/-- One attempt, by the point it gets to. -/
theorem attempt_cases (outcomes : Nat → Outcome) (trigger : Trigger) (actionKey : String) (attempt : Nat)
    (state : LoopState) :
    ∃ result after, evaluate (LoopState.serve outcomes) (attemptTrigger trigger actionKey attempt) state =
        (result, after) ∧ after.attempt = attempt ∧
      after.mined = (state.mined || (outcomes attempt).sends trigger && (outcomes attempt).mined) ∧
      after.row.status = (outcomes attempt).reaches trigger state.row.status ∧
      match (outcomes attempt).thrown trigger with
      | none => ∃ response, result = .ok response
      | some failure => result = .error failure := by
  unfold attemptTrigger Outcome.thrown Outcome.reaches Outcome.submits Outcome.sends
  rw [evaluate_call]
  simp only [LoopState.serve]
  rw [evaluate_checks _ rfl]
  dsimp only
  cases (outcomes attempt).checked trigger with
  | error failure => exact ⟨_, _, rfl, rfl, by simp [Except.isOk, Except.toBool], rfl, rfl⟩
  | ok checked =>
    dsimp only
    rw [evaluate_bind, evaluate_updateTrigger]
    simp only [Outcome.reply]
    obtain ⟨executing, replied⟩ : ∃ reply, (outcomes attempt).executing = reply := ⟨_, rfl⟩
    cases executing with
    | lost error applied =>
      simp only [replied]
      refine ⟨_, _, rfl, ?_⟩
      cases applied <;> simp [Reply.applied, Except.isOk, Except.toBool]
    | acknowledged =>
      simp only [replied, Reply.answer, Reply.applied, Except.mapError, if_true]
      rw [evaluate_call]
      simp only [LoopState.serve]
      rw [evaluate_bind, evaluate_await]
      obtain ⟨transaction, sent⟩ : ∃ answer, (outcomes attempt).transaction = answer := ⟨_, rfl⟩
      cases transaction with
      | error error =>
        simp only [sent]
        refine ⟨_, _, rfl, rfl, by simp [Except.isOk, Except.toBool], ?_, rfl⟩
        simp [Except.isOk, Except.toBool]
      | ok result =>
        simp only [sent, Except.mapError]
        rw [evaluate_call]
        simp only [LoopState.serve]
        rw [evaluate_bind, evaluate_updateTrigger]
        simp only [Outcome.reply]
        obtain ⟨submitted, written⟩ : ∃ reply, (outcomes attempt).submitted = reply := ⟨_, rfl⟩
        cases submitted with
        | acknowledged =>
          simp only [written, Reply.applied, if_true]
          refine ⟨_, _, rfl, rfl, by simp [Except.isOk, Except.toBool], ?_, _, rfl⟩
          simp [Except.isOk, Except.toBool]
        | lost error applied =>
          simp only [written]
          refine ⟨_, _, rfl, ?_⟩
          cases applied <;> simp [Except.isOk, Except.toBool, Reply.applied]

end Attempt

/-- The loop goes on after this attempt. -/
structure Retried (settings : Settings) (trigger : Trigger) (outcome : Outcome) (attempt : Nat) : Prop where
  failed : ∃ failure, outcome.thrown trigger = some failure ∧ (classifyError failure).isTerminal = false
  more : attempt < settings.maxAttempts
  written : outcome.failed = .acknowledged

/-- The attempt at which the loop stops: the first, from `first` on, that is not retried. -/
structure StopsAt (settings : Settings) (trigger : Trigger) (outcomes : Nat → Outcome) (first attempt : Nat) :
    Prop where
  reached : first ≤ attempt
  bounded : attempt ≤ settings.maxAttempts
  retried : ∀ earlier, first ≤ earlier → earlier < attempt →
    Retried settings trigger (outcomes earlier) earlier
  last : ¬ Retried settings trigger (outcomes attempt) attempt

/-- What the last attempt makes of a transaction that took effect: it succeeds; or it
fails, retryably, as the last one allowed, and that is written; or neither its failure
is written nor the write of `SUBMITTED` lost. -/
def Recorded (settings : Settings) (trigger : Trigger) (outcome : Outcome) (attempt : Nat) : Prop :=
  match outcome.thrown trigger with
  | none => True
  | some failure =>
    if outcome.failed.applied then
      (classifyError failure).isTerminal = false ∧ settings.maxAttempts ≤ attempt
    else outcome.submits trigger = true

/-- `SUBMITTED`, `CONFIRMED`, or the status re-drive starts from. -/
def TriggerStatus.recoverable : TriggerStatus → Bool
  | .submitted | .confirmed | .exhaustedNeedsRedrive => true
  | _ => false

/-- The row's status after a round of the loop. -/
def Outcome.leaves (settings : Settings) (trigger : Trigger) (outcome : Outcome) (attempt : Nat)
    (before : TriggerStatus) : TriggerStatus :=
  match outcome.thrown trigger with
  | none => outcome.reaches trigger before
  | some failure =>
    if outcome.failed.applied then determineNextStatus (classifyError failure) attempt settings.maxAttempts
    else outcome.reaches trigger before

section Loop

variable {settings : Settings} {trigger : Trigger} {actionKey : String} {outcomes : Nat → Outcome}

private theorem evaluate_waitBackoff (next : Job α) (attempt : Nat) (state : LoopState) :
    evaluate (LoopState.serve outcomes) (do waitBackoff settings attempt; next) state =
      evaluate (LoopState.serve outcomes) next state := rfl

private theorem failureUpdates_reply (outcome : Outcome) (error : OracleError) (attempt maxAttempts : Nat) :
    outcome.reply (failureUpdates error (determineNextStatus error attempt maxAttempts) attempt) =
      outcome.failed := by
  rcases determineNextStatus_cases error attempt maxAttempts with ⟨_, same⟩ | ⟨_, _, same⟩ | ⟨_, _, same⟩ <;>
    rw [same] <;> rfl

/-- One round of the loop: the row it leaves, and whether another round follows. -/
theorem round_cases (settings : Settings) (trigger : Trigger) (actionKey : String) (outcomes : Nat → Outcome)
    (attempt remaining : Nat) (state : LoopState) :
    ∃ after : LoopState,
      after.mined = (state.mined || (outcomes attempt).sends trigger && (outcomes attempt).mined) ∧
      after.row.status = (outcomes attempt).leaves settings trigger attempt state.row.status ∧
      (Retried settings trigger (outcomes attempt) attempt →
        evaluate (LoopState.serve outcomes) (retryFrom settings trigger actionKey attempt (remaining + 1)) state =
          evaluate (LoopState.serve outcomes) (retryFrom settings trigger actionKey (attempt + 1) remaining)
            after) ∧
      (¬ Retried settings trigger (outcomes attempt) attempt →
        (evaluate (LoopState.serve outcomes)
          (retryFrom settings trigger actionKey attempt (remaining + 1)) state).2 = after) := by
  obtain ⟨result, after, same, reached, mined, status, thrown⟩ :=
    attempt_cases outcomes trigger actionKey attempt state
  unfold Outcome.leaves
  rw [retryFrom, evaluate_tryCatch, same]
  cases failed : (outcomes attempt).thrown trigger with
  | none =>
    rw [failed] at thrown
    obtain ⟨response, rfl⟩ := thrown
    refine ⟨after, mined, status, ?_, fun _ => rfl⟩
    intro retried
    obtain ⟨_, impossible, _⟩ := retried.failed
    rw [failed] at impossible
    cases impossible
  | some failure =>
    rw [failed] at thrown
    subst thrown
    dsimp only
    rw [evaluate_bind, evaluate_updateTrigger, reached, failureUpdates_reply]
    obtain ⟨reply, written⟩ : ∃ reply, (outcomes attempt).failed = reply := ⟨_, rfl⟩
    cases reply with
    | lost error applied =>
      simp only [written, Reply.answer, Reply.applied, Except.mapError]
      refine ⟨_, ?_, ?_, ?_, fun _ => rfl⟩
      · cases applied <;> exact mined
      · cases applied
        · exact status
        · rfl
      · intro retried
        rw [retried.written] at written
        cases written
    | acknowledged =>
      simp only [written, Reply.answer, Reply.applied, Except.mapError, if_true]
      rcases determineNextStatus_cases (classifyError failure) attempt settings.maxAttempts with
        ⟨terminal, next⟩ | ⟨retryable, spent, next⟩ | ⟨retryable, more, next⟩
      · simp only [next, if_true]
        refine ⟨_, ?_, ?_, ?_, fun _ => rfl⟩
        · exact mined
        · rfl
        · intro retried
          obtain ⟨_, thrown, retryable⟩ := retried.failed
          rw [failed] at thrown
          cases thrown
          rw [terminal] at retryable
          cases retryable
      · simp only [next, if_true]
        refine ⟨_, ?_, ?_, ?_, fun _ => rfl⟩
        · exact mined
        · rfl
        · intro retried
          exact absurd retried.more (Nat.not_lt.mpr spent)
      · simp only [next]
        refine ⟨⟨(failureUpdates (classifyError failure) .failed attempt).apply after.row, after.mined, attempt,
          after.sent⟩, mined, rfl, ?_, ?_⟩
        · intro _
          rw [if_neg (by decide), if_neg (by decide), if_pos ⟨more, retryable⟩, evaluate_waitBackoff]
        · intro stopped
          exact absurd ⟨⟨failure, failed, retryable⟩, more, written⟩ stopped

/-- An attempt that is retried leaves `FAILED`. -/
theorem Retried.leaves {outcome : Outcome} (retried : Retried settings trigger outcome attempt)
    (before : TriggerStatus) : outcome.leaves settings trigger attempt before = .failed := by
  obtain ⟨⟨failure, thrown, retryable⟩, more, written⟩ := retried
  unfold Outcome.leaves
  rw [thrown, written]
  rcases determineNextStatus_cases (classifyError failure) attempt settings.maxAttempts with
    ⟨terminal, _⟩ | ⟨_, spent, _⟩ | ⟨_, _, next⟩
  · rw [terminal] at retryable
    cases retryable
  · exact absurd more (Nat.not_lt.mpr spent)
  · exact next

/-- An attempt that throws nothing wrote `SUBMITTED`. -/
theorem Outcome.submits_of_thrown {outcome : Outcome} (succeeded : outcome.thrown trigger = none) :
    outcome.submits trigger = true := by
  unfold Outcome.thrown at succeeded
  unfold Outcome.submits Outcome.sends
  cases checked : outcome.checked trigger with
  | error failure => simp [checked] at succeeded
  | ok _ =>
    simp only [checked] at succeeded
    split at succeeded
    · cases succeeded
    · split at succeeded
      · cases succeeded
      · split at succeeded
        · cases succeeded
        · simp_all [Except.isOk, Except.toBool, Reply.applied]

private theorem determineNextStatus_recoverable (error : OracleError) (attempt maxAttempts : Nat) :
    (determineNextStatus error attempt maxAttempts).recoverable = true ↔
      error.isTerminal = false ∧ maxAttempts ≤ attempt := by
  rcases determineNextStatus_cases error attempt maxAttempts with
    ⟨terminal, next⟩ | ⟨retryable, spent, next⟩ | ⟨retryable, more, next⟩ <;> rw [next]
  · simp [terminal, TriggerStatus.recoverable]
  · simp [retryable, spent, TriggerStatus.recoverable]
  · simp [retryable, more, TriggerStatus.recoverable]

/-- After a transaction that took effect, now or before an attempt that was retried. -/
theorem leaves_recoverable (outcome : Outcome) (attempt : Nat) (before : TriggerStatus)
    (done : (outcome.sends trigger && outcome.mined) = true ∨ before = .failed) :
    (outcome.leaves settings trigger attempt before).recoverable = true ↔
      Recorded settings trigger outcome attempt := by
  unfold Outcome.leaves Recorded
  cases thrown : outcome.thrown trigger with
  | none => simp [Outcome.reaches, Outcome.submits_of_thrown thrown, TriggerStatus.recoverable]
  | some failure =>
    dsimp only
    split
    · exact determineNextStatus_recoverable _ _ _
    · unfold Outcome.reaches
      cases submitted : outcome.submits trigger with
      | true => simp [TriggerStatus.recoverable]
      | false =>
        rcases done with sent | rfl
        · simp_all [Outcome.sends, Reply.applied, TriggerStatus.recoverable]
        · cases (outcome.checked trigger).isOk && outcome.executing.applied <;>
            simp [TriggerStatus.recoverable]

private theorem StopsAt.here (bounded : attempt ≤ settings.maxAttempts)
    (stopped : ¬ Retried settings trigger (outcomes attempt) attempt) :
    StopsAt settings trigger outcomes attempt final ↔ final = attempt := by
  constructor
  · intro stops
    refine Nat.le_antisymm (Nat.not_lt.mp fun later => stopped ?_) stops.reached
    exact stops.retried attempt le_rfl later
  · intro same
    rw [same]
    exact ⟨le_rfl, bounded, fun earlier reached before => absurd before (Nat.not_lt.mpr reached), stopped⟩

private theorem StopsAt.later (retried : Retried settings trigger (outcomes attempt) attempt) :
    StopsAt settings trigger outcomes attempt final ↔
      StopsAt settings trigger outcomes (attempt + 1) final := by
  constructor
  · intro stops
    refine ⟨?_, stops.bounded, fun earlier reached => stops.retried earlier (by omega), stops.last⟩
    apply Nat.lt_of_le_of_ne stops.reached
    intro same
    rw [← same] at stops
    exact stops.last retried
  · intro stops
    refine ⟨Nat.le_of_succ_le stops.reached, stops.bounded, ?_, stops.last⟩
    intro earlier reached before
    rcases Nat.eq_or_lt_of_le reached with rfl | further
    · exact retried
    · exact stops.retried earlier further before

/-- A round that another does not follow. -/
theorem round_recorded (remaining attempt : Nat) (bounded : attempt ≤ settings.maxAttempts)
    (stopped : ¬ Retried settings trigger (outcomes attempt) attempt) (state : LoopState)
    (failed : state.mined = true → state.row.status = .failed)
    (mined : (evaluate (LoopState.serve outcomes)
      (retryFrom settings trigger actionKey attempt (remaining + 1)) state).2.mined = true) :
    (evaluate (LoopState.serve outcomes)
        (retryFrom settings trigger actionKey attempt (remaining + 1)) state).2.row.status.recoverable = true ↔
      ∃ last, StopsAt settings trigger outcomes attempt last ∧
        Recorded settings trigger (outcomes last) last := by
  obtain ⟨after, done, status, _, stops⟩ := round_cases settings trigger actionKey outcomes attempt remaining state
  rw [stops stopped, done] at mined
  rw [stops stopped, status, leaves_recoverable]
  · simp only [StopsAt.here bounded stopped, exists_eq_left]
  · rcases Bool.or_eq_true_iff.mp mined with before | now
    · exact .inr (failed before)
    · exact .inl now

/-- The rounds from an attempt on, after attempts that were all retried. -/
theorem rounds_recorded (remaining attempt : Nat) (left : attempt + remaining = settings.maxAttempts)
    (state : LoopState) (failed : state.mined = true → state.row.status = .failed)
    (mined : (evaluate (LoopState.serve outcomes)
      (retryFrom settings trigger actionKey attempt (remaining + 1)) state).2.mined = true) :
    (evaluate (LoopState.serve outcomes)
        (retryFrom settings trigger actionKey attempt (remaining + 1)) state).2.row.status.recoverable = true ↔
      ∃ last, StopsAt settings trigger outcomes attempt last ∧
        Recorded settings trigger (outcomes last) last := by
  induction remaining generalizing attempt state with
  | zero =>
    have stopped : ¬ Retried settings trigger (outcomes attempt) attempt :=
      fun retried => absurd retried.more (by omega)
    exact round_recorded 0 attempt (by omega) stopped state failed mined
  | succ remaining ih =>
    by_cases again : Retried settings trigger (outcomes attempt) attempt
    · obtain ⟨after, _, status, continues, _⟩ := round_cases settings trigger actionKey outcomes attempt (remaining + 1) state
      rw [continues again] at mined ⊢
      rw [ih (attempt + 1) (by omega) after (fun _ => status.trans (again.leaves _)) mined]
      simp only [StopsAt.later again]
    · exact round_recorded (remaining + 1) attempt (by omega) again state failed mined

/-- Once one of the loop's transactions took effect, the row is recoverable at the end
exactly when the attempt at which the loop stops recorded it. -/
theorem mined_recorded (settings : Settings) (trigger : Trigger) (actionKey : String)
    (outcomes : Nat → Outcome)
    (mined : (evaluate (LoopState.serve outcomes) (executeWithRetry settings trigger actionKey)
      ⟨trigger, false, 0, false⟩).2.mined = true) :
    (evaluate (LoopState.serve outcomes) (executeWithRetry settings trigger actionKey)
        ⟨trigger, false, 0, false⟩).2.row.status.recoverable = true ↔
      ∃ attempt, StopsAt settings trigger outcomes 1 attempt ∧
        Recorded settings trigger (outcomes attempt) attempt := by
  unfold executeWithRetry at mined ⊢
  obtain ⟨maxAttempts, delay, manual⟩ := settings
  cases maxAttempts with
  | zero => cases mined
  | succ remaining =>
    exact rounds_recorded remaining 1 (Nat.add_comm 1 remaining) _ (fun before => absurd before Bool.false_ne_true)
      mined

end Loop

/-- The first transaction is mined and its response lost; the trade is looked up again
before each later attempt. -/
def lostResponse (later : Except ForeignError Trade) (attempt : Nat) : Outcome where
  getTrade := if attempt = 1 then .ok ⟨1, ⟨0xB0⟩, .locked, none⟩ else later
  checkedAt := attempt
  executing := .acknowledged
  transaction := .error ⟨"timeout", "Error: timeout", none, none⟩
  mined := attempt = 1
  submittedAt := attempt
  submitted := .acknowledged
  failed := .acknowledged
  jitter := 0

def lastState (outcomes : Nat → Outcome) : LoopState :=
  (evaluate (LoopState.serve outcomes) (executeWithRetry plainSettings pendingRow "RELEASE_STAGE_1:1")
    ⟨pendingRow, false, 0, false⟩).2

/-- The node stays out of reach. -/
theorem lostResponse_recorded :
    let outcomes := lostResponse (.error ⟨"timeout", "Error: timeout", none, none⟩)
    (lastState outcomes).mined = true ∧
      ((lastState outcomes).row.status.recoverable = true ↔
        ∃ attempt, StopsAt plainSettings pendingRow outcomes 1 attempt ∧
          Recorded plainSettings pendingRow (outcomes attempt) attempt) :=
  ⟨by decide +kernel, mined_recorded plainSettings pendingRow "RELEASE_STAGE_1:1" _ (by decide +kernel)⟩

/-- The second attempt finds the trade advanced by the first. -/
theorem minedRelease_failsForGood :
    let outcomes := lostResponse (.ok ⟨1, ⟨0xB0⟩, .inTransit, none⟩)
    (lastState outcomes).mined = true ∧ (lastState outcomes).row.status = .terminalFailure := by
  decide +kernel

end Agroasys.Oracle
