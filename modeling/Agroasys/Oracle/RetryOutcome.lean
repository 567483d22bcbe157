import Agroasys.Foundation.Contracts
import Agroasys.Oracle.Bench

namespace Agroasys.Oracle

open Agroasys.Foundation

/-- The row of the loop, the rows stored for it, and the transactions sent. -/
structure Desk where
  row : Trigger
  stored : List Trigger
  transactions : Nat

def Desk.write (desk : Desk) (idempotencyKey : String) (updates : UpdateTriggerData) : Desk :=
  if idempotencyKey = desk.row.idempotencyKey then
    { desk with row := updates.apply desk.row, stored := updates.apply desk.row :: desk.stored }
  else desk

/-- A database that answers, with anything from the chain. -/
def steady (before : Desk) : Event Effect Answer → Desk → Prop
  | ⟨.updateTrigger key updates, answer⟩, after => answer = .ok () ∧ after = before.write key updates
  | ⟨.sendTransaction _ _ _, _⟩, after => after = { before with transactions := before.transactions + 1 }
  | _, after => after = before

/-- The loop ended as it is meant to. -/
structure Concluded (settings : Settings) (result : Except Failure TriggerResponse) (desk : Desk) : Prop where
  returned : ∃ response, result = .ok response
  status : desk.row.status ∈ [.submitted, .terminalFailure, .exhaustedNeedsRedrive]
  written : desk.row ∈ desk.stored
  attempts : ∀ row ∈ desk.stored, row.attemptCount ≤ settings.maxAttempts
  transactions : desk.transactions ≤ settings.maxAttempts

section Loop

variable {settings : Settings} {trigger : Trigger} {actionKey : String} {desk : Desk}

/-- What holds between the calls of the loop. -/
structure Underway (maxAttempts : Nat) (key : String) (sent : Nat) (desk : Desk) : Prop where
  named : desk.row.idempotencyKey = key
  attempts : ∀ row ∈ desk.stored, row.attemptCount ≤ maxAttempts
  transactions : desk.transactions ≤ sent

private theorem Underway.more (underway : Underway maxAttempts key sent desk) (more : sent ≤ later) :
    Underway maxAttempts key later desk :=
  ⟨underway.named, underway.attempts, underway.transactions.trans more⟩

/-- A write of the loop reaches its row. -/
theorem Underway.written (underway : Underway maxAttempts key sent desk) (updates : UpdateTriggerData) :
    desk.write key updates =
      { desk with row := updates.apply desk.row, stored := updates.apply desk.row :: desk.stored } :=
  if_pos underway.named.symm

private theorem Underway.write (underway : Underway maxAttempts key sent desk) (updates : UpdateTriggerData)
    (bounded : (updates.apply desk.row).attemptCount ≤ maxAttempts) :
    Underway maxAttempts key sent (desk.write key updates) := by
  rw [underway.written]
  refine ⟨underway.named, ?_, underway.transactions⟩
  intro row member
  rcases List.mem_cons.mp member with rfl | member
  · exact bounded
  · exact underway.attempts row member

private theorem wp_await {answer : Except ForeignError α} {returns : α → Desk → Prop} {throws : Failure → Desk → Prop}
    (returned : ∀ value, answer = .ok value → returns value desk) (raised : ∀ failure, throws failure desk) :
    Task.wp steady (await answer) returns throws desk := by
  cases answer with
  | ok value => exact returned value rfl
  | error error => exact raised _

private theorem wp_check {result : Except Failure α} {returns : α → Desk → Prop} {throws : Failure → Desk → Prop}
    (returned : ∀ value, returns value desk) (raised : ∀ failure, throws failure desk) :
    Task.wp steady (check result) returns throws desk := by
  cases result with
  | ok value => exact returned value
  | error failure => exact raised failure

private theorem wp_updateTrigger {returns : Unit → Desk → Prop} {throws : Failure → Desk → Prop}
    (written : returns () (desk.write key updates)) :
    Task.wp steady (updateTrigger key updates) returns throws desk := by
  apply Task.wp_bind
  apply Task.wp_perform
  intro answer after served
  obtain ⟨rfl, rfl⟩ := served
  exact written

private theorem wp_getTrade {returns : Trade → Desk → Prop} {throws : Failure → Desk → Prop}
    (returned : ∀ trade, returns trade desk) (raised : ∀ failure, throws failure desk) :
    Task.wp steady (getTrade tradeId) returns throws desk := by
  apply Task.wp_bind
  apply Task.wp_perform
  intro answer after served
  obtain rfl : desk = after := Eq.symm served
  apply Task.wp_bind
  apply wp_await
  · intro _ _
    exact wp_check returned raised
  · exact raised

private theorem wp_validateState {returns : Unit → Desk → Prop} {throws : Failure → Desk → Prop}
    (returned : returns () desk) (raised : ∀ failure, throws failure desk) :
    Task.wp steady (validateState trade triggerType) returns throws desk := by
  apply Task.wp_bind
  apply Task.wp_perform
  intro answer after served
  obtain rfl : desk = after := Eq.symm served
  exact wp_check (fun _ => returned) raised

/-- One attempt: at most one more transaction, and `SUBMITTED` if it succeeds. -/
theorem wp_attemptTrigger (underway : Underway maxAttempts trigger.idempotencyKey sent desk)
    (bounded : attempt ≤ maxAttempts) :
    Task.wp steady (attemptTrigger trigger actionKey attempt)
      (fun _ after => Underway maxAttempts trigger.idempotencyKey (sent + 1) after ∧
        after.row.status = .submitted ∧ after.row ∈ after.stored)
      (fun _ after => Underway maxAttempts trigger.idempotencyKey (sent + 1) after) desk := by
  have quiet (failure : Failure) : Underway maxAttempts trigger.idempotencyKey (sent + 1) desk :=
    underway.more (Nat.le_succ sent)
  apply Task.wp_bind
  apply Task.wp_perform
  intro _ after logged
  obtain rfl : desk = after := Eq.symm logged
  apply Task.wp_bind
  apply wp_getTrade
  · intro trade
    apply Task.wp_bind
    apply wp_validateState
    · apply Task.wp_bind
      apply wp_updateTrigger
      have executing := underway.write { status := some .executing, attemptCount := some attempt } bounded
      have counted : (desk.write trigger.idempotencyKey
          { status := some .executing, attemptCount := some attempt }).row.attemptCount = attempt := by
        rw [underway.written]
        rfl
      generalize desk.write trigger.idempotencyKey { status := some .executing, attemptCount := some attempt } =
        between at executing counted
      apply Task.wp_bind
      apply Task.wp_perform
      intro answer after served
      obtain rfl : after = { between with transactions := between.transactions + 1 } := served
      have sentOne : Underway maxAttempts trigger.idempotencyKey (sent + 1)
          { between with transactions := between.transactions + 1 } :=
        ⟨executing.named, executing.attempts, Nat.succ_le_succ executing.transactions⟩
      apply Task.wp_bind
      apply wp_await
      · intro result _
        apply Task.wp_bind
        apply Task.wp_perform
        intro time later served
        obtain rfl : later = { between with transactions := between.transactions + 1 } := served
        apply Task.wp_bind
        apply wp_updateTrigger
        apply Task.wp_pure
        refine ⟨sentOne.write _ (counted.trans_le bounded), ?_, ?_⟩
        · rw [sentOne.written]
          rfl
        · rw [sentOne.written]
          exact List.mem_cons_self
      · exact fun _ => sentOne
    · exact quiet
  · exact quiet

/-- A round that fails ends the loop for good or is followed by another. -/
theorem wp_failed (underway : Underway settings.maxAttempts trigger.idempotencyKey attempt desk)
    (bounded : attempt ≤ settings.maxAttempts) {again : Job TriggerResponse} {returns : TriggerResponse → Desk → Prop}
    {throws : Failure → Desk → Prop}
    (ended : ∀ response after, Underway settings.maxAttempts trigger.idempotencyKey attempt after →
      after.row.status ∈ [.submitted, .terminalFailure, .exhaustedNeedsRedrive] → after.row ∈ after.stored →
      returns response after)
    (followed : attempt < settings.maxAttempts → ∀ after,
      Underway settings.maxAttempts trigger.idempotencyKey attempt after → Task.wp steady again returns throws after)
    (failure : Failure) :
    Task.wp steady (do
      let error := classifyError failure
      let nextStatus := determineNextStatus error attempt settings.maxAttempts
      updateTrigger trigger.idempotencyKey (failureUpdates error nextStatus attempt)
      if nextStatus = .terminalFailure then
        return plainResponse trigger actionKey nextStatus error.message
      else if nextStatus = .exhaustedNeedsRedrive then
        return plainResponse trigger actionKey nextStatus (exhaustedMessage settings error)
      else if attempt < settings.maxAttempts ∧ error.isTerminal = false then
        waitBackoff settings attempt
        again
      else throw failure) returns throws desk := by
  apply Task.wp_bind
  apply wp_updateTrigger
  have failed := underway.write
    (failureUpdates (classifyError failure)
      (determineNextStatus (classifyError failure) attempt settings.maxAttempts) attempt) bounded
  have status : (desk.write trigger.idempotencyKey (failureUpdates (classifyError failure)
      (determineNextStatus (classifyError failure) attempt settings.maxAttempts) attempt)).row.status =
        determineNextStatus (classifyError failure) attempt settings.maxAttempts := by
    rw [underway.written]
    rfl
  have stored : (desk.write trigger.idempotencyKey (failureUpdates (classifyError failure)
      (determineNextStatus (classifyError failure) attempt settings.maxAttempts) attempt)).row ∈
        (desk.write trigger.idempotencyKey (failureUpdates (classifyError failure)
          (determineNextStatus (classifyError failure) attempt settings.maxAttempts) attempt)).stored := by
    rw [underway.written]
    exact List.mem_cons_self
  rcases determineNextStatus_cases (classifyError failure) attempt settings.maxAttempts with
    ⟨_, next⟩ | ⟨_, _, next⟩ | ⟨retryable, more, next⟩
  · rw [next] at failed status stored ⊢
    apply Task.wp_pure
    apply ended _ _ failed ?_ stored
    rw [status]
    exact .tail _ (.head _)
  · rw [next] at failed status stored ⊢
    apply Task.wp_pure
    apply ended _ _ failed ?_ stored
    rw [status]
    exact .tail _ (.tail _ (.head _))
  · rw [next] at failed ⊢
    rw [if_neg (by decide), if_neg (by decide), if_pos ⟨more, retryable⟩]
    generalize desk.write _ _ = written at failed
    apply Task.wp_bind
    apply Task.wp_bind
    apply Task.wp_perform
    intro jitter after drawn
    obtain rfl : written = after := Eq.symm drawn
    apply Task.wp_perform
    intro _ after slept
    obtain rfl : written = after := Eq.symm slept
    exact followed more _ failed

/-- The loop left its row in one of its final statuses. -/
structure Finished (settings : Settings) (trigger : Trigger) (desk : Desk) : Prop where
  underway : Underway settings.maxAttempts trigger.idempotencyKey settings.maxAttempts desk
  status : desk.row.status ∈ [.submitted, .terminalFailure, .exhaustedNeedsRedrive]
  stored : desk.row ∈ desk.stored

private theorem wp_round (remaining : Nat) (underway : Underway settings.maxAttempts trigger.idempotencyKey sent desk)
    (bounded : sent + 1 ≤ settings.maxAttempts)
    (followed : sent + 1 < settings.maxAttempts → ∀ after,
      Underway settings.maxAttempts trigger.idempotencyKey (sent + 1) after →
        Task.wp steady (retryFrom settings trigger actionKey (sent + 1 + 1) remaining)
          (fun _ => Finished settings trigger) (fun _ _ => False) after) :
    Task.wp steady (retryFrom settings trigger actionKey (sent + 1) (remaining + 1))
      (fun _ => Finished settings trigger) (fun _ _ => False) desk := by
  apply Task.wp_tryCatch
  apply Task.wp_mono (wp_attemptTrigger underway bounded)
  · intro response after ended
    obtain ⟨done, status, stored⟩ := ended
    refine ⟨done.more bounded, ?_, stored⟩
    rw [status]
    exact .head _
  · intro failure after failed
    apply wp_failed failed bounded
    · exact fun _ _ done status stored => ⟨done.more bounded, status, stored⟩
    · exact followed

/-- From an attempt on, the loop finishes. -/
theorem wp_retryFrom (remaining : Nat) (underway : Underway settings.maxAttempts trigger.idempotencyKey sent desk)
    (left : sent + 1 + remaining = settings.maxAttempts) :
    Task.wp steady (retryFrom settings trigger actionKey (sent + 1) (remaining + 1))
      (fun _ => Finished settings trigger) (fun _ _ => False) desk := by
  induction remaining generalizing sent desk with
  | zero =>
    apply wp_round 0 underway (by omega)
    intro more
    omega
  | succ remaining ih =>
    apply wp_round (remaining + 1) underway (by omega)
    exact fun _ after done => ih done (by omega)

end Loop

/-- One way for the database and the chain to answer. -/
def steadyServe (effect : Effect) (desk : Desk) : Answer effect × Desk :=
  match effect with
  | .updateTrigger key updates => (.ok (), desk.write key updates)
  | .sendTransaction _ _ _ => (.ok ⟨"", 0⟩, { desk with transactions := desk.transactions + 1 })
  | .getLatestTriggerByActionKey _ | .getTriggerByIdempotencyKey _ => (.ok none, desk)
  | .approveTrigger _ _ | .rejectTrigger _ _ _ | .findConfirmationEvent _ _ => (.ok none, desk)
  | .getTriggersByStatus _ _ => (.ok [], desk)
  | .insertTrigger _ _ | .getTrade _ => (.error ⟨"", "", none, none⟩, desk)
  | .logAttempt _ _ | .recordOnChainCheck _ _ | .sleep _ => ((), desk)
  | .lastOnChainCheck _ => (none, desk)
  | .now | .jitter _ => (0, desk)
  | .randomBytes => ("", desk)

private theorem steadyServe_steady (effect : Effect) (desk : Desk) :
    steady desk ⟨effect, (steadyServe effect desk).1⟩ (steadyServe effect desk).2 := by
  cases effect with
  | updateTrigger => exact ⟨rfl, rfl⟩
  | _ => rfl

/-- The loop ends as it is meant to exactly if it may make an attempt, and it always ends. -/
theorem retry_concludes (settings : Settings) (trigger : Trigger) (actionKey : String) :
    ((∀ events result desk, Program.Execution steady (executeWithRetry settings trigger actionKey).run
        ⟨trigger, [], 0⟩ events (.done result) desk → Concluded settings result desk) ↔ 1 ≤ settings.maxAttempts) ∧
    ∀ events program before, Program.Execution steady (executeWithRetry settings trigger actionKey).run
      ⟨trigger, [], 0⟩ events program before →
        ∃ later result desk, Program.Execution steady program before later (.done result) desk := by
  refine ⟨⟨?_, ?_⟩, ?_⟩
  · intro concludes
    by_contra none
    have zero : settings.maxAttempts = 0 := by omega
    have thrown : (executeWithRetry settings trigger actionKey).run =
        .done (.error (.foreign (loopExited settings actionKey))) := by
      unfold executeWithRetry
      rw [zero]
      rfl
    rw [thrown] at concludes
    obtain ⟨response, returned⟩ := (concludes _ _ _ (.stop _ _)).returned
    cases returned
  · intro some events result desk execution
    obtain ⟨remaining, left⟩ := Nat.exists_eq_add_of_le some
    have start : Underway settings.maxAttempts trigger.idempotencyKey 0 ⟨trigger, [], 0⟩ :=
      ⟨rfl, List.forall_mem_nil _, le_rfl⟩
    have finishes : Task.wp steady (retryFrom settings trigger actionKey 1 (remaining + 1))
        (fun _ => Finished settings trigger) (fun _ _ => False) ⟨trigger, [], 0⟩ :=
      wp_retryFrom remaining start (by omega)
    have rounds : settings.maxAttempts = remaining + 1 := by omega
    have ended := Program.wp_sound finishes (by rwa [executeWithRetry, rounds] at execution)
    cases result with
    | ok response =>
      obtain ⟨underway, status, stored⟩ := ended
      exact ⟨⟨response, rfl⟩, status, stored, underway.attempts, underway.transactions⟩
    | error failure => exact ended.elim
  · intro events program before _
    obtain ⟨later, execution⟩ := Program.run_execution steadyServe steadyServe_steady program before
    exact ⟨later, _, _, execution⟩

/-- Without attempts a row stays `PENDING` and the loop throws. -/
theorem noAttempts_pending : ∃ failure, Program.Execution steady
    (executeWithRetry { plainSettings with maxAttempts := 0 } pendingRow "RELEASE_STAGE_1:1").run
      ⟨pendingRow, [], 0⟩ [] (.done (.error failure)) ⟨pendingRow, [], 0⟩ ∧ pendingRow.status = .pending :=
  ⟨_, .stop _ _, rfl⟩

end Agroasys.Oracle
