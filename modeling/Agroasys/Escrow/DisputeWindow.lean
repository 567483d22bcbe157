import Agroasys.Escrow.Lifecycle

/-! The dispute window is measured on the block clock: pauses neither stop it nor
make it longer. -/

namespace Agroasys.Escrow

open Agroasys.Foundation

variable {σ Op : Type} {chain : Chain σ Op}

/-- The block time spent in states that `during` selects. -/
def timeSpent (during : World σ → Bool) : EscrowHistory σ Op → Nat
  | [] => 0
  | entry :: earlier =>
    timeSpent during earlier + if during entry.before then entry.after.now - entry.before.now else 0

abbrev unpausedTime (history : EscrowHistory σ Op) : Nat := timeSpent (fun s => !s.paused) history
abbrev pausedTime (history : EscrowHistory σ Op) : Nat := timeSpent (·.paused) history

/-- All of the time that passes is either paused or not. -/
theorem path_time (path : Path (escrowSystem chain) origin history final) :
    origin.now + unpausedTime history + pausedTime history = final.now := by
  induction path with
  | start => rfl
  | @next earlier s action next _ taken ih =>
    obtain ⟨clock, now, _⟩ := step_cases taken
    simp only [unpausedTime, pausedTime, timeSpent] at ih ⊢
    cases paused : s.paused with
    | false =>
      simp only [Bool.not_false, ↓reduceIte, Bool.false_eq_true]
      omega
    | true =>
      simp only [Bool.not_true, ↓reduceIte, Bool.false_eq_true]
      omega

private theorem openDispute_ok {s : World σ} (unpaused : s.paused = false) (known : tradeId < s.tradeCounter)
    (status : (s.trades tradeId).status = .arrivalConfirmed)
    (arrived : 0 < (s.trades tradeId).arrivalTimestamp)
    (window : (s.trades tradeId).disputeOpen time) :
    ∃ next, openDispute ⟨(s.trades tradeId).buyerAddress, time⟩ tradeId s = .ok next := by
  simp only [openDispute, whenNotPaused, bind_eq_ok, require_eq_ok, exists_const, pure_eq_ok]
  exact ⟨_, unpaused, known, trivial, status, arrived, window, rfl⟩

def awaitsFinalization (tradeId : Nat) (s : World σ) : Bool :=
  decide ((s.trades tradeId).status = .arrivalConfirmed)

/-- A trade that awaits finalization has had its arrival confirmed, and has been
waiting since. -/
theorem arrival_before (run : (escrowSystem chain).Run history s)
    (status : (s.trades tradeId).status = .arrivalConfirmed) :
    ∃ window arrival older msg, history = window ++ arrival :: older ∧
      StatusMove tradeId arrival msg .confirmArrival ∧
      (s.trades tradeId).arrivalTimestamp = msg.timestamp ∧ arrival.after.now = msg.timestamp ∧
      Path (escrowSystem chain) arrival.after window s ∧
      ∀ waiting, Visited window s waiting → (waiting.trades tradeId).status = .arrivalConfirmed := by
  obtain ⟨origin, initial, path⟩ := run
  have down : awaitsFinalization tradeId origin = false := by
    obtain ⟨config, deployed⟩ := initial
    rw [awaitsFinalization, (deployed.established.unopened tradeId (by
      obtain ⟨_, _, rfl⟩ := deployed.world
      exact Nat.zero_le _)).1]
    rfl
  have up : awaitsFinalization tradeId s = true := by simp [awaitsFinalization, status]
  obtain ⟨window, arrival, older, rfl, ⟨before, after⟩, since⟩ := path.last_raised down up
  simp only [awaitsFinalization, decide_eq_false_iff_not, decide_eq_true_eq] at before after since
  obtain ⟨first, step, path⟩ := path.split
  have run : (escrowSystem chain).Run older arrival.before := ⟨origin, initial, first⟩
  have reachable := System.Reachable.step ⟨older, run⟩ step
  rcases step_status run step tradeId with same | ⟨msg, move, moves⟩
  · exact absurd (same.symm.trans after) before
  · have target := moves.target
    rw [after] at target
    cases move with
    | confirmArrival =>
      obtain ⟨call, label⟩ := moves.label
      obtain ⟨_, now, _⟩ := step_cases step
      have genesis := (run_established run).clock
      obtain ⟨clock, _⟩ := step_cases step
      have stamp : (arrival.after.trades tradeId).arrivalTimestamp = msg.timestamp := by
        rw [moves.trade]
        rfl
      have set : (arrival.after.trades tradeId).arrivalTimestamp ≠ 0 := by
        rw [stamp]
        rw [label] at clock
        exact (genesis.trans_le clock).ne'
      refine ⟨window, arrival, older, msg, rfl, moves, ?_, ?_, path, since⟩
      · rw [arrival_kept reachable path set, stamp]
      · rw [now, label]
        rfl
    | _ => cases target

/-- Whenever a trade is finalized the protocol is not paused and more than the
dispute window has passed since its arrival was confirmed, paused or not; and
the buyer could have opened a dispute at every moment of that window at which
the protocol was not paused. -/
theorem finalized_after_window (run : (escrowSystem chain).Run (later ++ entry :: earlier) final)
    (label : entry.label = .escrow msg (.finalizeAfterDisputeWindow tradeId)) :
    entry.before.paused = false ∧
      ∃ window arrival older confirmation, earlier = window ++ arrival :: older ∧
        StatusMove tradeId arrival confirmation .confirmArrival ∧
        confirmation.timestamp + disputeWindow < msg.timestamp ∧
        unpausedTime (entry :: window) + pausedTime (entry :: window) =
          msg.timestamp - confirmation.timestamp ∧
        ∀ s, Visited window entry.before s → s.paused = false →
          ∀ time, time ≤ confirmation.timestamp + disputeWindow →
            ∃ next, openDispute ⟨(s.trades tradeId).buyerAddress, time⟩ tradeId s = .ok next := by
  obtain ⟨before, step, _⟩ := run.split
  obtain ⟨s, action, next⟩ := entry
  dsimp only at label before step
  subst label
  obtain ⟨_, now, ⟨_, _, result, same, success, _⟩ | ⟨_, _, _, impossible, _⟩⟩ := step_cases step
  · cases same
    obtain ⟨advanced, _, elapsed⟩ := finalizeAfterDisputeWindow_effect success
    obtain ⟨window, arrival, older, confirmation, rfl, confirms, stamp, arrivedAt, path, since⟩ :=
      arrival_before before advanced.source
    refine ⟨advanced.unpaused, window, arrival, older, confirmation, rfl, confirms, ?_, ?_, ?_⟩
    · rw [← stamp]
      exact elapsed
    · have total := path_time (path.next step)
      rw [arrivedAt, now] at total
      simp only [Action.message] at total
      omega
    · intro waiting visited unpaused time open_
      obtain ⟨reachable, rest, path⟩ := before.visited (visited.append _)
      obtain ⟨history, reached⟩ := reachable
      have status := since waiting visited
      have arrived := (run_timed reached tradeId).arrived (.inl status)
      have kept := arrival_kept ⟨history, reached⟩ path arrived.ne'
      have known : tradeId < waiting.tradeCounter :=
        (run_established reached).unopened.known (by rw [status]; decide)
      refine openDispute_ok unpaused known status arrived ?_
      unfold Trade.disputeOpen
      rw [← kept, stamp]
      exact open_
  · cases impossible

open Mock in
/-- The protocol is paused one second after an arrival and unpaused the next day,
just before the trade is finalized. -/
private theorem pausedWindow_run : ∃ s arrived paused proposed unpaused final history,
    (escrowSystem mockChain).Run history s ∧
      (escrowSystem mockChain).step s (call oracle 10 (.confirmArrival 0)) arrived ∧
      (escrowSystem mockChain).step arrived (call admin1 11 .pause) paused ∧
      (escrowSystem mockChain).step paused (call admin1 100000 .proposeUnpause) proposed ∧
      (escrowSystem mockChain).step proposed (call admin2 100000 .approveUnpause) unpaused ∧
      (escrowSystem mockChain).step unpaused (call supplier 100000 (.finalizeAfterDisputeWindow 0)) final ∧
      (s.trades 0).status = .inTransit ∧ (arrived.trades 0).status = .arrivalConfirmed ∧
      arrived.paused = false ∧ paused.paused = true ∧ proposed.paused = true ∧ unpaused.paused = false := by
  have outcome : ((scenario (config [admin1, admin2] 1) [call buyer 1 (.createTrade order),
      call oracle 2 (.releaseFundsStage1 0)]).bind fun s =>
        (replay mockChain [call oracle 10 (.confirmArrival 0)] s).bind fun arrived =>
          (replay mockChain [call admin1 11 .pause] arrived).bind fun paused =>
            (replay mockChain [call admin1 100000 .proposeUnpause] paused).bind fun proposed =>
              (replay mockChain [call admin2 100000 .approveUnpause] proposed).bind fun unpaused =>
                (replay mockChain [call supplier 100000 (.finalizeAfterDisputeWindow 0)] unpaused).map
                  fun _ => ((s.trades 0).status, (arrived.trades 0).status, arrived.paused,
                    paused.paused, proposed.paused, unpaused.paused)) =
      some (.inTransit, .arrivalConfirmed, false, true, true, false) := by
    decide +kernel
  obtain ⟨s, reached, rest⟩ := Option.bind_eq_some_iff.mp outcome
  obtain ⟨arrived, confirms, rest⟩ := Option.bind_eq_some_iff.mp rest
  obtain ⟨paused, pauses, rest⟩ := Option.bind_eq_some_iff.mp rest
  obtain ⟨proposed, proposes, rest⟩ := Option.bind_eq_some_iff.mp rest
  obtain ⟨unpaused, approves, rest⟩ := Option.bind_eq_some_iff.mp rest
  obtain ⟨final, finalizes, facts⟩ := Option.map_eq_some_iff.mp rest
  obtain ⟨history, run⟩ := scenario_run reached
  simp only [Prod.mk.injEq] at facts
  exact ⟨s, arrived, paused, proposed, unpaused, final, history, run,
    replay_single confirms, replay_single pauses, replay_single proposes, replay_single approves,
    replay_single finalizes, facts⟩

open Mock in
theorem pausedWindow_elapsed : ∃ unpaused final earlier,
    (escrowSystem mockChain).Run
      (⟨unpaused, call supplier 100000 (.finalizeAfterDisputeWindow 0), final⟩ :: earlier) final ∧
      ∃ window arrival older confirmation, earlier = window ++ arrival :: older ∧
        StatusMove 0 arrival confirmation .confirmArrival ∧
        confirmation.timestamp + disputeWindow < 100000 := by
  obtain ⟨s, arrived, paused, proposed, unpaused, final, history, run, confirms, pauses, proposes,
    approves, finalizes, _⟩ := pausedWindow_run
  have before := (((run.extend (.single confirms)).extend (.single pauses)).extend
    (.single proposes)).extend (.single approves)
  have whole : (escrowSystem mockChain).Run
      ([] ++ ⟨unpaused, call supplier 100000 (.finalizeAfterDisputeWindow 0), final⟩ :: _) final :=
    before.extend (.single finalizes)
  obtain ⟨_, window, arrival, older, confirmation, split, confirmed, elapsed, _⟩ :=
    finalized_after_window whole rfl
  exact ⟨unpaused, final, _, whole, window, arrival, older, confirmation, split, confirmed, elapsed⟩

open Mock in
/-- The buyer of that trade had one second. -/
theorem pausedWindow_short : ¬ ∀ later final entry window arrival older msg confirmation tradeId,
    (escrowSystem mockChain).Run (later ++ entry :: (window ++ arrival :: older)) final →
    StatusMove tradeId arrival confirmation .confirmArrival →
    entry.label = .escrow msg (.finalizeAfterDisputeWindow tradeId) →
    disputeWindow ≤ unpausedTime (entry :: window) := by
  obtain ⟨s, arrived, paused, proposed, unpaused, final, history, run, confirms, pauses, proposes,
    approves, finalizes, inTransit, confirmed, open_, closed, still, reopened⟩ := pausedWindow_run
  have moves : ∃ confirmation, StatusMove 0 ⟨s, call oracle 10 (.confirmArrival 0), arrived⟩
      confirmation .confirmArrival := by
    rcases step_status run confirms 0 with same | ⟨msg, move, moves⟩
    · rw [inTransit, confirmed] at same
      cases same
    · have target := moves.target
      simp only [confirmed] at target
      cases move with
      | confirmArrival => exact ⟨msg, moves⟩
      | _ => cases target
  obtain ⟨confirmation, moves⟩ := moves
  have before := (((run.extend (.single confirms)).extend (.single pauses)).extend
    (.single proposes)).extend (.single approves)
  have whole := before.extend (.single finalizes)
  intro always
  have waited := always [] final ⟨unpaused, _, final⟩
    [⟨proposed, _, unpaused⟩, ⟨paused, _, proposed⟩, ⟨arrived, _, paused⟩] _ history _ confirmation 0
    whole moves rfl
  have times : arrived.now = 10 ∧ paused.now = 11 ∧ unpaused.now = 100000 ∧ final.now = 100000 :=
    ⟨(step_cases confirms).2.1, (step_cases pauses).2.1, (step_cases approves).2.1,
      (step_cases finalizes).2.1⟩
  simp [unpausedTime, timeSpent, open_, closed, still, reopened, times, disputeWindow] at waited

end Agroasys.Escrow
