import Agroasys.Foundation.Casting
import Agroasys.Oracle.Evidence

/-! Rows that the worker gives up on: a poll looks at the chain before it does, unless
the rate limit refuses the look. -/

namespace Agroasys.Oracle

open Function Agroasys.Foundation Agroasys.Escrow

/-- What the check of a row has seen last. -/
inductive Sight where
  | nothing
  | asked (answer : Option Nat)
  | looked (answer : Except ForeignError Trade)
  | wrote (updates : UpdateTriggerData) (answer : Except ForeignError Unit)

inductive Watcher where
  /-- Any call but a poll. -/
  | elsewhere
  | fetching
  /-- A poll, with the row it checks, the time it read for that, and the rows to come. -/
  | watching (current : Option (Trigger × Nat × Sight)) (pending : List Trigger)

/-- The next row with a transaction, and those after it. -/
def nextWatched : List Trigger → Option (Trigger × List Trigger)
  | [] => none
  | trigger :: rest =>
    match orUndefined trigger.txHash with
    | none => nextWatched rest
    | some _ => some (trigger, rest)

/-- Why a poll may give up a row: it may not look at the chain, the chain does not show
the action, or the confirmation could not be written. -/
def Sight.excuses (row : Trigger) (now : Nat) : Sight → Prop
  | .nothing => False
  | .asked answer => ∃ last, answer = some last ∧ now - last < onChainFallbackMinIntervalMs
  | .looked answer => ∀ trade, answer = .ok trade → checkTrade row.tradeId trade = .ok trade →
      trade.status = row.triggerType.source
  | .wrote updates answer => updates = verifiedUpdates ∧ ∃ error, answer = .error error

def Watcher.permits : Watcher → Effect → Prop
  | .elsewhere, _ => True
  | .fetching, .updateTrigger _ _ => False
  | .fetching, _ => True
  | .watching current _, .lastOnChainCheck tradeId =>
    ∃ row now, current = some (row, now, .nothing) ∧ row.tradeId = tradeId
  | .watching current _, .getTrade tradeId =>
    ∃ row now answer, current = some (row, now, .asked answer) ∧ row.tradeId = tradeId
  | .watching current _, .updateTrigger key updates =>
    ∃ row now sight, current = some (row, now, sight) ∧ row.idempotencyKey = key ∧
      (updates.status = some .exhaustedNeedsRedrive →
        hardTimeoutMs < now - row.submittedAt.getD 0 ∧ sight.excuses row now)
  | .watching _ _, _ => True

def Watcher.after (role : Watcher) (effect : Effect) (answer : Answer effect) : Watcher :=
  match role, effect, answer with
  | .fetching, .getTriggersByStatus _ _, .ok rows => .watching none rows
  | .watching _ pending, .now, time =>
    match nextWatched pending with
    | some (row, rest) => .watching (some (row, time, .nothing)) rest
    | none => .watching none []
  | .watching (some (row, now, _)) pending, .lastOnChainCheck _, answer =>
    .watching (some (row, now, .asked answer)) pending
  | .watching (some (row, now, _)) pending, .getTrade _, answer =>
    .watching (some (row, now, .looked answer)) pending
  | .watching (some (row, now, _)) pending, .updateTrigger _ updates, answer =>
    .watching (some (row, now, .wrote updates answer)) pending
  | role, _, _ => role

def watch : Protocol Effect Answer Watcher where
  permits := Watcher.permits
  after := Watcher.after

def Call.watcher : Call → Watcher
  | .pollConfirmations => .fetching
  | _ => .elsewhere

section Watch

/-- A program that is no poll may do anything. -/
theorem follows_elsewhere (program : Program Effect Answer α) :
    watch.Follows (fun _ _ => True) .elsewhere program := by
  induction program with
  | done value => trivial
  | call effect next ih => exact ⟨trivial, fun answer => ih answer⟩

/-- The poll that has these rows to come. -/
def Coming (rows : List Trigger) (role : Watcher) : Prop :=
  ∃ current pending, role = .watching current pending ∧ nextWatched pending = nextWatched rows

/-- The poll that checks a row, having seen this. -/
def Checking (row : Trigger) (now : Nat) (rest : List Trigger) (seen : Sight → Prop) (role : Watcher) : Prop :=
  ∃ sight, role = .watching (some (row, now, sight)) rest ∧ seen sight

private theorem Checking.coming (checking : Checking row now rest seen role) : Coming rest role := by
  obtain ⟨sight, rfl, _⟩ := checking
  exact ⟨_, _, rfl, rfl⟩

/-- The rate limit: a poll either goes on to look, or has seen what it refuses for. -/
theorem watches_shouldRunOnChainCheck {trigger : Trigger} {now ageMs : Nat} {rest : List Trigger} :
    watch.Runs
      (fun role looks => Checking trigger now rest
        (fun sight => if looks = true then ∃ answer, sight = .asked answer
          else hardTimeoutMs < ageMs → sight.excuses trigger now) role)
      (fun _ _ => False) (.watching (some (trigger, now, .nothing)) rest)
      (shouldRunOnChainCheck trigger.tradeId now ageMs) := by
  unfold shouldRunOnChainCheck
  split
  · rename_i young
    apply Protocol.Runs.pure
    refine ⟨.nothing, rfl, ?_⟩
    intro expired
    unfold hardTimeoutMs at expired
    unfold onChainFallbackThresholdMs at young
    omega
  · apply Protocol.Runs.bind
    apply Protocol.Runs.perform
    · exact ⟨trigger, now, rfl, rfl⟩
    · intro answer
      cases answer with
      | none =>
        apply Protocol.Runs.bind
        apply Protocol.Runs.perform
        · trivial
        · intro _
          exact .pure ⟨_, rfl, none, rfl⟩
      | some last =>
        dsimp only
        split
        · rename_i recent
          apply Protocol.Runs.pure
          exact ⟨_, rfl, fun _ => ⟨last, rfl, recent⟩⟩
        · apply Protocol.Runs.bind
          apply Protocol.Runs.perform
          · trivial
          · intro _
            exact .pure ⟨_, rfl, some last, rfl⟩

/-- A look at the chain, and the confirmation if it shows the action. -/
theorem watches_verifyOnChain {trigger : Trigger} {now : Nat} {rest : List Trigger}
    (asked : Checking trigger now rest (∃ answer, · = .asked answer) role) :
    watch.Runs
      (fun role confirmed => if confirmed = true then Coming rest role
        else Checking trigger now rest (fun sight => sight.excuses trigger now) role)
      (fun role _ => Checking trigger now rest (fun sight => sight.excuses trigger now) role) role
      (verifyOnChain trigger) := by
  obtain ⟨_, rfl, answer, rfl⟩ := asked
  unfold verifyOnChain getTrade
  apply Protocol.Runs.bind
  apply Protocol.Runs.bind
  apply Protocol.Runs.perform
  · exact ⟨trigger, now, answer, rfl, rfl⟩
  · intro looked
    apply Protocol.Runs.bind
    apply runs_await
    · intro trade found
      apply runs_check
      · intro checked same
        have advances : isTradeStateAdvanced trigger.triggerType checked.status = true ∨
            checked.status = trigger.triggerType.source := by
          rw [isTradeStateAdvanced_eq, decide_eq_true_eq]
          exact (em _).symm
        rcases advances with advanced | source
        · rw [if_pos advanced]
          apply Protocol.Runs.bind
          apply Protocol.Runs.bind
          apply Protocol.Runs.perform
          · exact ⟨trigger, now, _, rfl, rfl, nofun⟩
          · intro written
            apply runs_await
            · intro _ _
              exact .pure ⟨_, _, rfl, rfl⟩
            · intro error failed
              exact ⟨_, rfl, rfl, error, failed⟩
        · have idle : isTradeStateAdvanced trigger.triggerType checked.status = false := by
            rw [isTradeStateAdvanced_eq, source]
            exact decide_eq_false (not_not.mpr rfl)
          rw [if_neg (by rw [idle]; decide)]
          apply Protocol.Runs.pure
          refine ⟨_, rfl, ?_⟩
          intro other found' passed
          cases found.symm.trans found'
          cases same.symm.trans passed
          exact source
      · intro failure refused
        refine ⟨_, rfl, ?_⟩
        intro other same passed
        cases found.symm.trans same
        cases refused.symm.trans passed
    · intro error failed
      refine ⟨_, rfl, ?_⟩
      intro other same
      cases failed.symm.trans same

private theorem watches_tryOnChainFallback {trigger : Trigger} {now ageMs : Nat} {rest : List Trigger} :
    watch.Runs
      (fun role confirmed => if confirmed = true then Coming rest role
        else Checking trigger now rest (fun sight => hardTimeoutMs < ageMs → sight.excuses trigger now) role)
      (fun _ _ => False) (.watching (some (trigger, now, .nothing)) rest) (tryOnChainFallback trigger now ageMs) := by
  apply Protocol.Runs.bind
  apply watches_shouldRunOnChainCheck.mono
  · intro role looks checking
    cases looks with
    | true =>
      apply Protocol.Runs.tryCatch
      obtain ⟨sight, playing, seen⟩ := checking
      rw [if_pos rfl] at seen
      apply (watches_verifyOnChain ⟨sight, playing, seen⟩).mono
      · intro role confirmed ended
        cases confirmed with
        | true => exact ended
        | false =>
          obtain ⟨sight, playing, excuses⟩ := ended
          exact ⟨sight, playing, fun _ => excuses⟩
      · intro role failure ended
        obtain ⟨sight, playing, excuses⟩ := ended
        exact .pure ⟨sight, playing, fun _ => excuses⟩
    | false =>
      apply Protocol.Runs.pure
      obtain ⟨sight, playing, seen⟩ := checking
      exact ⟨sight, playing, seen⟩
  · exact fun _ _ => id

private theorem watches_update {trigger : Trigger} {now : Nat} {rest : List Trigger}
    (checking : Checking trigger now rest seen role)
    (excused : ∀ sight, seen sight → updates.status = some .exhaustedNeedsRedrive →
      hardTimeoutMs < now - trigger.submittedAt.getD 0 ∧ sight.excuses trigger now) :
    watch.Runs (fun role _ => Coming rest role) (fun role _ => Coming rest role) role
      (updateTrigger trigger.idempotencyKey updates) := by
  obtain ⟨sight, rfl, known⟩ := checking
  apply Protocol.Runs.bind
  apply Protocol.Runs.perform
  · exact ⟨trigger, now, sight, rfl, rfl, excused sight known⟩
  · intro answer
    apply runs_await
    · exact fun _ _ => ⟨_, _, rfl, rfl⟩
    · exact fun _ _ => ⟨_, _, rfl, rfl⟩

theorem watches_confirmTransaction {trigger : Trigger} {rest : List Trigger} (coming : Coming (trigger :: rest) role)
    (sent : orUndefined trigger.txHash = some txHash) :
    watch.Runs (fun role _ => Coming rest role) (fun role _ => Coming rest role) role
      (confirmTransaction trigger txHash) := by
  obtain ⟨current, pending, rfl, same⟩ := coming
  apply Protocol.Runs.bind
  apply Protocol.Runs.perform
  · trivial
  · intro now
    have next : nextWatched pending = some (trigger, rest) := by
      rw [same, nextWatched, sent]
    have role : watch.after (.watching current pending) .now now = .watching (some (trigger, now, .nothing)) rest := by
      change (match nextWatched pending with
        | some (row, rest) => Watcher.watching (some (row, now, .nothing)) rest
        | none => .watching none []) = _
      rw [next]
    rw [role]
    apply Protocol.Runs.bind
    apply watches_tryOnChainFallback.mono
    · intro role confirmed checked
      cases confirmed with
      | true => exact .pure checked
      | false =>
        rw [if_neg Bool.false_ne_true] at checked ⊢
        split
        · rename_i expired
          exact watches_update checked fun sight seen _ => ⟨expired, seen expired⟩
        · apply Protocol.Runs.bind
          apply Protocol.Runs.perform
          · obtain ⟨sight, rfl, _⟩ := checked
            trivial
          · intro answer
            have still : Checking trigger now rest (fun _ => True)
                (watch.after role (.findConfirmationEvent txHash trigger.tradeId) answer) := by
              obtain ⟨sight, rfl, _⟩ := checked
              exact ⟨sight, rfl, trivial⟩
            apply Protocol.Runs.bind
            apply runs_await
            · intro found _
              cases found with
              | none => exact .pure still.coming
              | some event =>
                apply watches_update still
                intro sight _ exhausts
                cases exhausts
            · exact fun _ _ => still.coming
    · exact fun _ _ => False.elim

theorem watches_checkConfirmation {trigger : Trigger} {rest : List Trigger} (coming : Coming (trigger :: rest) role) :
    watch.Runs (fun role _ => Coming rest role) (fun _ _ => False) role (checkConfirmation trigger) := by
  unfold checkConfirmation
  split
  · rename_i unsent
    apply Protocol.Runs.pure
    obtain ⟨current, pending, rfl, same⟩ := coming
    refine ⟨current, pending, rfl, ?_⟩
    rw [same, nextWatched, unsent]
  · rename_i txHash sent
    apply Protocol.Runs.tryCatch
    apply (watches_confirmTransaction coming sent).mono
    · exact fun _ _ => id
    · exact fun _ _ still => .pure still

private theorem watches_checkConfirmations (rows : List Trigger) (coming : Coming rows role) :
    watch.Runs (fun _ _ => True) (fun _ _ => False) role (checkConfirmations rows) := by
  induction rows generalizing role with
  | nil => exact .pure trivial
  | cons trigger rest ih =>
    apply Protocol.Runs.bind
    apply (watches_checkConfirmation coming).mono
    · exact fun _ _ still => ih still
    · exact fun _ _ => id

private theorem call_follows (settings : Settings) (call : Call) :
    watch.Follows (fun _ _ => True) call.watcher (answerCall settings call).run := by
  cases call with
  | pollConfirmations =>
    have polls : watch.Runs (fun _ _ => True) (fun _ _ => True) .fetching pollConfirmations := by
      apply Protocol.Runs.tryCatch
      apply Protocol.Runs.bind
      apply Protocol.Runs.perform
      · trivial
      · intro answer
        apply Protocol.Runs.bind
        apply runs_await
        · intro rows fetched
          subst fetched
          apply (watches_checkConfirmations rows ⟨none, rows, rfl, rfl⟩).mono
          · exact fun _ _ => id
          · exact fun _ _ => False.elim
        · exact fun _ _ => .pure trivial
    apply Protocol.Runs.follows
    apply Protocol.Runs.bind
    apply polls.mono
    · exact fun _ _ _ => .pure trivial
    · exact fun _ _ _ => trivial
  | _ => exact follows_elsewhere _

end Watch

section Escrow

variable {σ Op : Type} {chain : Chain σ Op}

/-- How far a trade has come. -/
def statusRank : TradeStatus → Nat
  | .locked => 0
  | .inTransit => 1
  | .arrivalConfirmed => 2
  | .frozen => 3
  | .closed => 4

private theorem move_advances (move : Escrow.Move) : statusRank move.source < statusRank move.target := by
  cases move <;> simp [Move.source, Move.target, statusRank]

/-- A trade that has left a status does not come back to it. -/
theorem Onchain.left_behind (onchain : Onchain chain) (changed : onchain.Changed number source target)
    (different : target ≠ source) : (onchain.world.trades number).status ≠ source := by
  obtain ⟨entry, member, before, after⟩ := changed
  obtain ⟨_, earlier, _, run, step, path⟩ := onchain.run.cut member
  have further : statusRank source < statusRank (entry.after.trades number).status := by
    rcases step_status run step number with same | ⟨msg, move, moved⟩
    · exact absurd (after.symm.trans (same.trans before)) different
    · have target : (entry.after.trades number).status = move.target := moved.target
      rw [target, ← before, moved.source]
      exact move_advances move
  have reachable : (escrowSystem chain).Reachable entry.after := System.Reachable.step ⟨earlier, run⟩ step
  have beyond := reachable.invariant (P := fun s => statusRank source < statusRank (s.trades number).status)
    path further ?_
  · intro back
    have ahead := beyond.2
    rw [back] at ahead
    exact absurd ahead (Nat.lt_irrefl _)
  · intro s action next ⟨before, run⟩ taken ahead
    rcases step_status run taken number with same | ⟨msg, move, moved⟩
    · rw [same]
      exact ahead
    · have target : (next.trades number).status = move.target := moved.target
      have source : (s.trades number).status = move.source := moved.source
      rw [target]
      rw [source] at ahead
      exact ahead.trans (move_advances move)

variable {tradeIdOf : String → Option Nat}

/-- The trade of a row has left the status that the action starts from. -/
def Left (tradeIdOf : String → Option Nat) (row : Trigger) (onchain : Onchain chain) : Prop :=
  ∃ number target, tradeIdOf row.tradeId = some number ∧ target ≠ row.triggerType.source ∧
    onchain.Changed number row.triggerType.source target

private theorem Left.later {before after : Onchain chain} (left : Left tradeIdOf row before)
    (kept : before.history ⊆ after.history) : Left tradeIdOf row after := by
  obtain ⟨number, target, denoted, different, changed⟩ := left
  exact ⟨number, target, denoted, different, changed.later kept⟩

/-- The row that a poll checks, and the time it read for that. -/
def Checks (history : ServiceHistory (Onchain chain)) (pid : Nat) (row : Trigger) (now : Nat) : Prop :=
  ∃ sight pending, casting watch Call.watcher history pid = some (.watching (some (row, now, sight)) pending)

/-- The last time a call asked whether it may look at the chain. -/
def LastAsk (history : ServiceHistory (Onchain chain)) (pid : Nat) (tradeId : String) (seen : Onchain chain) : Prop :=
  ∃ later ask earlier answer, history = later ++ ask :: earlier ∧
    ask.label = .perform pid ⟨.lastOnChainCheck tradeId, answer⟩ ∧ ask.before.world.chain = seen ∧
    ∀ entry ∈ later, ∀ other answer, entry.label ≠ .perform pid ⟨.lastOnChainCheck other, answer⟩

/-- Where a poll checks a row, the chain shows it the trade. -/
def Answering (earlier : ServiceHistory (Onchain chain)) (entry : ServiceEntry (Onchain chain)) : Prop :=
  ∀ pid row now answer, Checks earlier pid row now →
    entry.label = .perform pid ⟨.getTrade row.tradeId, answer⟩ →
    ∃ trade, answer = .ok trade ∧ checkTrade row.tradeId trade = .ok trade

/-- For a row past the hard timeout, the rate limit does not refuse a look at a trade that
has left its status, and the confirmation is written. -/
def Unhindered (tradeIdOf : String → Option Nat) (earlier : ServiceHistory (Onchain chain))
    (entry : ServiceEntry (Onchain chain)) : Prop :=
  ∀ pid row now, Checks earlier pid row now → hardTimeoutMs < now - row.submittedAt.getD 0 →
    (∀ last, entry.label = .perform pid ⟨.lastOnChainCheck row.tradeId, some last⟩ →
      Left tradeIdOf row entry.before.world.chain → onChainFallbackMinIntervalMs ≤ now - last) ∧
    ∀ error, entry.label ≠ .perform pid ⟨.updateTrigger row.idempotencyKey verifiedUpdates, .error error⟩

/-- What a poll knows of the row it checks. -/
def Sight.Known (tradeIdOf : String → Option Nat) (history : ServiceHistory (Onchain chain)) (pid : Nat)
    (row : Trigger) (now : Nat) (onchain : Onchain chain) : Sight → Prop
  | .nothing => True
  | .asked answer => ∃ seen, LastAsk history pid row.tradeId seen ∧ seen.history ⊆ onchain.history ∧
      (hardTimeoutMs < now - row.submittedAt.getD 0 → Left tradeIdOf row seen →
        ∀ last, answer = some last → onChainFallbackMinIntervalMs ≤ now - last)
  | .looked answer => ∃ seen, LastAsk history pid row.tradeId seen ∧
      (Left tradeIdOf row seen → ∃ trade, answer = .ok trade ∧ checkTrade row.tradeId trade = .ok trade ∧
        trade.status ≠ row.triggerType.source)
  | .wrote updates answer => hardTimeoutMs < now - row.submittedAt.getD 0 → updates = verifiedUpdates →
      ∀ error, answer ≠ .error error

private theorem LastAsk.later {history : ServiceHistory (Onchain chain)} (ask : LastAsk history pid tradeId seen)
    (other : ∀ tradeId answer, entry.label ≠ .perform pid ⟨.lastOnChainCheck tradeId, answer⟩) :
    LastAsk (entry :: history) pid tradeId seen := by
  obtain ⟨later, found, earlier, answer, same, label, chain, last⟩ := ask
  refine ⟨entry :: later, found, earlier, answer, by rw [same, List.cons_append], label, chain, ?_⟩
  rw [List.forall_mem_cons]
  exact ⟨other, last⟩

theorem Sight.Known.later {sight : Sight} {history : ServiceHistory (Onchain chain)} {before after : Onchain chain}
    (known : sight.Known tradeIdOf history pid row now before) (kept : before.history ⊆ after.history)
    (other : ∀ tradeId answer, entry.label ≠ .perform pid ⟨.lastOnChainCheck tradeId, answer⟩) :
    sight.Known tradeIdOf (entry :: history) pid row now after := by
  cases sight with
  | nothing => trivial
  | asked answer =>
    obtain ⟨seen, ask, past, limited⟩ := known
    exact ⟨seen, ask.later other, List.Subset.trans past kept, limited⟩
  | looked answer =>
    obtain ⟨seen, ask, found⟩ := known
    exact ⟨seen, ask.later other, found⟩
  | wrote updates answer => exact known

/-- Every poll knows what it has seen. -/
def Aware (tradeIdOf : String → Option Nat) (history : ServiceHistory (Onchain chain))
    (pool : ServicePool (Onchain chain)) : Prop :=
  ∀ pid row now sight pending,
    casting watch Call.watcher history pid = some (.watching (some (row, now, sight)) pending) →
      sight.Known tradeIdOf history pid row now pool.world.chain

/-- A check that has read the clock has seen nothing yet. -/
theorem sees_nothing (reached : watch.after (.watching current pending) .now time =
    .watching (some (row, now, sight)) rest) : sight = .nothing := by
  change (match nextWatched pending with
    | some (row, rest) => Watcher.watching (some (row, time, .nothing)) rest
    | none => .watching none []) = _ at reached
  split at reached
  · cases reached
    rfl
  · cases reached

/-- The call of a poll that checks a row. -/
theorem Sight.Known.after {settings : Settings} {history : ServiceHistory (Onchain chain)}
    {pool next : ServicePool (Onchain chain)} {event : Event Effect Answer}
    (acts : (service settings (escrowOutside chain tradeIdOf)).Acts watch Call.watcher history pool pid event
      (.watching (some (row, now, sight)) pending) next)
    (answering : Answering history ⟨pool, .perform pid event, next⟩)
    (unhindered : Unhindered tradeIdOf history ⟨pool, .perform pid event, next⟩)
    (known : sight.Known tradeIdOf history pid row now pool.world.chain)
    (reached : watch.after (.watching (some (row, now, sight)) pending) event.effect event.answer =
      .watching (some (row', now', sight')) pending') :
    sight'.Known tradeIdOf (⟨pool, .perform pid event, next⟩ :: history) pid row' now' next.world.chain := by
  have checks : Checks history pid row now := ⟨sight, pending, acts.assigned⟩
  have kept := escrow_keeps acts.served.2.2
  obtain ⟨effect, answer⟩ := event
  cases effect
  case lastOnChainCheck tradeId =>
    obtain ⟨_, _, current, named⟩ := acts.permitted
    cases current
    cases reached
    refine ⟨pool.world.chain, ?_, kept, ?_⟩
    · exact ⟨[], _, history, answer, rfl, by rw [named], rfl, List.forall_mem_nil _⟩
    · intro expired left last same
      subst same
      exact (unhindered pid row now checks expired).1 last (by rw [named]) left
  case getTrade tradeId =>
    obtain ⟨_, _, asked, current, named⟩ := acts.permitted
    cases current
    cases reached
    obtain ⟨seen, ask, past, _⟩ := known
    refine ⟨seen, ask.later nofun, ?_⟩
    intro left
    obtain ⟨trade, found, checked⟩ := answering pid row now answer checks (by rw [named])
    obtain ⟨number, target, denoted, distinct, changed⟩ := left.later past
    obtain ⟨number', denoted', view⟩ := acts.served.2.2.1 trade found
    cases (named ▸ denoted).symm.trans denoted'
    refine ⟨trade, found, checked, ?_⟩
    rw [view]
    exact pool.world.chain.left_behind changed distinct
  case updateTrigger key updates =>
    obtain ⟨_, _, _, current, named, _⟩ := acts.permitted
    cases current
    cases reached
    intro expired verified error failed
    subst verified failed
    exact (unhindered pid row now checks expired).2 error (by rw [named])
  case now =>
    cases sees_nothing reached
    trivial
  all_goals
    cases reached
    apply known.later kept
    intro _ _ same
    cases same

private theorem run_aware {settings : Settings}
    (run : (service settings (escrowOutside chain tradeIdOf)).system.Run history pool)
    (answering : Throughout Answering history) (unhindered : Throughout (Unhindered tradeIdOf) history) :
    Aware tradeIdOf history pool := by
  have granted : Throughout (fun earlier entry => Answering earlier entry ∧ Unhindered tradeIdOf earlier entry)
      history := fun later entry earlier same =>
    ⟨answering later entry earlier same, unhindered later entry earlier same⟩
  apply Server.run_kept (call_follows settings) ?_ ?_ ?_ ?_ run granted
  · intro pool _ pid row now sight pending assigned
    cases assigned
  · intro history pool fresh call next _ _ _ taken aware pid row now sight pending assigned
    obtain ⟨same, _⟩ := Server.started taken
    rw [casting_start] at assigned
    rcases update_assigned assigned with ⟨_, entered⟩ | ⟨_, assigned⟩
    · cases call <;> cases entered
    · apply (aware pid row now sight pending assigned).later
      · rw [same]
        exact List.Subset.refl _
      · intro _ _ label
        cases label
  · intro history pool caller event role next acts granted aware pid row now sight pending assigned
    rw [casting_perform acts.assigned] at assigned
    rcases update_assigned assigned with ⟨rfl, reached⟩ | ⟨different, assigned⟩
    · cases role with
      | elsewhere => cases reached
      | fetching =>
        obtain ⟨effect, answer⟩ := event
        cases effect
        case getTriggersByStatus status limit => cases answer <;> cases reached
        all_goals cases reached
      | watching current waiting =>
        cases current with
        | some current =>
          obtain ⟨checked, time, seen⟩ := current
          exact Sight.Known.after acts granted.1 granted.2 (aware _ _ _ _ _ acts.assigned) reached.symm
        | none =>
          obtain ⟨effect, answer⟩ := event
          cases effect
          case now =>
            cases sees_nothing reached.symm
            trivial
          all_goals cases reached
    · apply (aware pid row now sight pending assigned).later (escrow_keeps acts.served.2.2)
      intro _ _ label
      cases label
      exact different rfl
  · intro history pool next _ _ taken aware pid row now sight pending assigned
    apply (aware pid row now sight pending assigned).later
    · rcases taken.1.2.2 with same | ⟨action, executes⟩
      · rw [same]
        exact List.Subset.refl _
      · exact executes.keeps
    · intro _ _ label
      cases label

/-- A poll stays a poll. -/
theorem traced_polling (traced : watch.Traced .fetching events role) : role ≠ .elsewhere := by
  induction traced with
  | start => nofun
  | @next events role event _ _ ih =>
    obtain ⟨effect, answer⟩ := event
    intro elsewhere
    cases role with
    | elsewhere => exact ih rfl
    | fetching =>
      cases effect
      case getTriggersByStatus => cases answer <;> cases elsewhere
      all_goals cases elsewhere
    | watching current pending =>
      cases effect
      case now =>
        change (match nextWatched pending with
          | some (row, rest) => Watcher.watching (some (row, answer, .nothing)) rest
          | none => .watching none []) = _ at elsewhere
        split at elsewhere <;> cases elsewhere
      all_goals cases current <;> cases elsewhere

/-- A poll that gives up a row asked to look at the chain when the trade had not left its
status, where the rate limit and the database do not hinder it. -/
theorem exhausted_undone {settings : Settings}
    (run : (service settings (escrowOutside chain tradeIdOf)).system.Run history pool)
    (answering : Throughout Answering history) (unhindered : Throughout (Unhindered tradeIdOf) history)
    (same : history = later ++ entry :: earlier) (polls : Began earlier pid .pollConfirmations)
    (exhausts : entry.label = .perform pid ⟨.updateTrigger key updates, answer⟩)
    (status : updates.status = some .exhaustedNeedsRedrive) :
    ∃ row now seen, Checks earlier pid row now ∧ row.idempotencyKey = key ∧
      LastAsk earlier pid row.tradeId seen ∧ ¬ Left tradeIdOf row seen := by
  subst same
  obtain ⟨before, taken, _⟩ := run.split
  rw [exhausts] at taken
  obtain ⟨role, acts⟩ := Server.acts (call_follows settings) before taken
  obtain ⟨_, assigned, traced⟩ := Server.began_traced (call_follows settings) before polls
  cases assigned.symm.trans acts.assigned
  cases role with
  | elsewhere => exact absurd rfl (traced_polling traced)
  | fetching => exact acts.permitted.elim
  | watching current pending =>
    obtain ⟨row, now, sight, rfl, keyed, gives⟩ := acts.permitted
    obtain ⟨expired, excuses⟩ := gives status
    have known := run_aware before answering.before.cons.2 unhindered.before.cons.2 _ _ _ _ _ acts.assigned
    have checks : Checks earlier pid row now := ⟨sight, pending, acts.assigned⟩
    cases sight with
    | nothing => exact excuses.elim
    | asked asked =>
      obtain ⟨last, rfl, recent⟩ := excuses
      obtain ⟨seen, ask, _, limited⟩ := known
      refine ⟨row, now, seen, checks, keyed, ask, ?_⟩
      intro left
      exact absurd recent (Nat.not_lt.mpr (limited expired left last rfl))
    | looked looked =>
      obtain ⟨seen, ask, found⟩ := known
      refine ⟨row, now, seen, checks, keyed, ask, ?_⟩
      intro left
      obtain ⟨trade, answered, checked, advanced⟩ := found left
      exact advanced (excuses trade answered checked)
    | wrote written reply =>
      obtain ⟨verified, error, failed⟩ := excuses
      exact absurd failed (known expired verified error)

end Escrow

def submittedRow (triggerType : TriggerType) (key : String) (createdAt : Nat) : Trigger :=
  UpdateTriggerData.apply
    { status := some .submitted, txHash := some "0x01", submittedAt := some 0 }
    (CreateTriggerData.row ⟨generateActionKey triggerType.value "1", "req-1", key, "1", triggerType, none, .pending⟩
      createdAt)

def releaseRow : Trigger := submittedRow .releaseStage1 "release" 0
def arrivalRow : Trigger := submittedRow .confirmArrival "arrival" 1

def twoRows : Table := ⟨[arrivalRow, releaseRow], by decide +kernel, by decide +kernel⟩

open Mock in
/-- A second trade that was released and has arrived. -/
theorem arrivedTrade_seen : ∃ seen : Onchain mockChain,
    viewTrade (seen.world.trades 1) = ⟨1, buyer, .arrivalConfirmed, some 3000⟩ ∧
      seen.Changed 1 .inTransit .arrivalConfirmed := by
  have outcome : ((scenario (config [admin1, admin2] 1) [call buyer 1 (.createTrade order),
      call buyer 1 (.createTrade { order with buyerNonce := 1 }), call oracle 2 (.releaseFundsStage1 1)]).bind fun s =>
    (replay mockChain [call oracle 3 (.confirmArrival 1)] s).map fun next =>
      ((s.trades 1).status, viewTrade (next.trades 1))) =
        some (.inTransit, ⟨1, buyer, .arrivalConfirmed, some 3000⟩) := by decide +kernel
  obtain ⟨s, reached, rest⟩ := Option.bind_eq_some_iff.mp outcome
  obtain ⟨next, moves, facts⟩ := Option.map_eq_some_iff.mp rest
  obtain ⟨transit, view⟩ := Prod.mk.inj facts
  obtain ⟨history, run⟩ := scenario_run reached
  refine ⟨⟨_, next, run.extend (.single (replay_single moves))⟩, view, ?_⟩
  exact ⟨_, List.mem_cons_self, transit, congrArg Trade.status view⟩

/-- The trade has arrived; forty minutes have passed, and the indexer has seen nothing. -/
def lateArrival : Script :=
  { finding ⟨1, Mock.buyer, .arrivalConfirmed, some 3000⟩ with now := fun _ => 2400000 }

/-- A call asks whether it may look at this trade. -/
def asksFor (pid : Nat) (tradeId : String) : ServiceMove → Bool
  | .perform other ⟨.lastOnChainCheck asked, _⟩ => other = pid && asked = tradeId
  | _ => false

def pollsAs (pid : Nat) : ServiceMove → Bool
  | .start other .pollConfirmations => other = pid
  | _ => false

private theorem pollsAs_eq {label : ServiceMove} (polls : pollsAs pid label = true) :
    label = .start pid .pollConfirmations := by
  unfold pollsAs at polls
  split at polls
  · rw [of_decide_eq_true polls]
  · cases polls

/-- A call gives up this row. -/
def givesUp (pid : Nat) (key : String) : ServiceMove → Bool
  | .perform other ⟨.updateTrigger row updates, _⟩ =>
    other = pid && row = key && updates.status = some .exhaustedNeedsRedrive
  | _ => false

private theorem asksFor_eq {label : ServiceMove} (asks : asksFor pid tradeId label = true) :
    ∃ answer, label = .perform pid ⟨.lastOnChainCheck tradeId, answer⟩ := by
  unfold asksFor at asks
  split at asks
  · rename_i other asked answer
    simp only [Bool.and_eq_true, decide_eq_true_eq] at asks
    obtain ⟨rfl, rfl⟩ := asks
    exact ⟨answer, rfl⟩
  · cases asks

private theorem givesUp_eq {label : ServiceMove} (gives : givesUp pid key label = true) :
    ∃ updates answer, label = .perform pid ⟨.updateTrigger key updates, answer⟩ ∧
      updates.status = some .exhaustedNeedsRedrive := by
  unfold givesUp at gives
  split at gives
  · rename_i other row updates answer
    simp only [Bool.and_eq_true, decide_eq_true_eq] at gives
    obtain ⟨⟨rfl, rfl⟩, status⟩ := gives
    exact ⟨updates, answer, rfl, status⟩
  · cases gives

/-- Where every look finds a trade, the chain answers. -/
theorem answering_of_finds {history : ServiceHistory (Onchain chain)} (valid : checkTrade "1" trade = .ok trade)
    (finding : ∀ entry ∈ history, finds trade entry.label = true) : Throughout Answering history := by
  intro later entry earlier same pid row now answer _ label
  have found := finding entry (by simp [same])
  rw [label] at found
  simp only [finds, Bool.and_eq_true, decide_eq_true_eq] at found
  obtain ⟨one, some⟩ := found
  refine ⟨trade, ?_, by rw [one]; exact valid⟩
  cases answer with
  | ok other => exact congrArg Except.ok (Option.some.inj some)
  | error error => cases some

/-- A rehearsed poll that ends in giving up a row, over a chain that may answer as it does. -/
theorem exhausting_run {seen : Onchain chain} {next : BenchDrive}
    (view : viewTrade (seen.world.trades 1) = trade) (valid : checkTrade "1" trade = .ok trade)
    (success : rehearse plainSettings script table cues = some drive)
    (last : Server.advance script.respond 0 drive = some next)
    (facts : (next.1.head?.any (givesUp 0 key) && next.1.tail.any (pollsAs 0) && next.1.all (finds trade)) = true) :
    ∃ (entry : ServiceEntry (Onchain chain)) (earlier : ServiceHistory (Onchain chain)) (updates : UpdateTriggerData)
      (answer : Except ForeignError Unit),
      (service plainSettings (escrowOutside chain decimal)).system.Run (entry :: earlier) (atop seen next.2) ∧
        Throughout Answering (entry :: earlier) ∧ Began earlier 0 .pollConfirmations ∧
        entry.label = .perform 0 ⟨.updateTrigger key updates, answer⟩ ∧
        updates.status = some .exhaustedNeedsRedrive ∧ (entry :: earlier).map Transition.label = next.1 ∧
        ∀ other ∈ entry :: earlier, other.before.world.chain = seen := by
  obtain ⟨entry, history, run, before, after, labels⟩ := rehearse_advance success last
  rw [← labels] at facts ⊢
  simp only [List.map_cons, List.head?_cons, List.tail_cons, Option.any_some, Bool.and_eq_true, List.any_map] at facts
  obtain ⟨⟨gives, polls⟩, finding⟩ := facts
  obtain ⟨updates, answer, label, status⟩ := givesUp_eq gives
  have found : ∀ other ∈ entry :: history, finds trade other.label = true := by
    intro other member
    exact List.all_eq_true.mp finding _ (List.mem_map_of_mem member)
  have denoted : decimal "1" = some 1 := by decide +kernel
  have stands : ∀ other ∈ entry :: history, Stands seen (escrowOutside chain decimal) other.label := by
    rw [← view] at found
    exact fun other member => stands_of_finds (found other member) denoted
  refine ⟨atopEntry seen entry, history.map (atopEntry seen), updates, answer, standing_run seen run stands, ?_, ?_,
    label, status, ?_, ?_⟩
  · apply answering_of_finds valid
    rw [← List.map_cons]
    intro other member
    obtain ⟨rehearsed, present, rfl⟩ := List.mem_map.mp member
    exact found rehearsed present
  · obtain ⟨start, member, begins⟩ := List.any_eq_true.mp polls
    exact ⟨atopEntry seen start, List.mem_map_of_mem member, pollsAs_eq begins⟩
  · rw [List.map_cons, List.map_map]
    rfl
  · rw [← List.map_cons]
    intro other member
    obtain ⟨rehearsed, present, rfl⟩ := List.mem_map.mp member
    rfl

/-- The rate limit refuses no look, and every update is acknowledged. -/
def unlimited : ServiceMove → Bool
  | .perform _ ⟨.lastOnChainCheck _, some _⟩ => false
  | .perform _ ⟨.updateTrigger _ _, .error _⟩ => false
  | _ => true

private theorem unhindered_of_unlimited {history : ServiceHistory (Onchain chain)}
    (free : (history.map Transition.label).all unlimited = true) : Throughout (Unhindered tradeIdOf) history := by
  intro later entry earlier same pid row now _ _
  have unlimited := List.all_eq_true.mp free entry.label (List.mem_map_of_mem (by simp [same]))
  constructor
  · intro last label
    rw [label] at unlimited
    cases unlimited
  · intro error label
    rw [label] at unlimited
    cases unlimited

def oneRow : Table := ⟨[releaseRow], by decide +kernel, by decide +kernel⟩

/-- A row whose transaction was lost is given up. -/
theorem lockedRow_exhausted : ∃ (earlier : ServiceHistory (Onchain mockChain))
    (entry : ServiceEntry (Onchain mockChain)) (pool : ServicePool (Onchain mockChain)) (updates : UpdateTriggerData)
    (answer : Except ForeignError Unit) (row : Trigger) (now : Nat) (seen : Onchain mockChain),
    (service plainSettings (escrowOutside mockChain decimal)).system.Run (entry :: earlier) pool ∧
      entry.label = .perform 0 ⟨.updateTrigger releaseRow.idempotencyKey updates, answer⟩ ∧
      Checks earlier 0 row now ∧ row.idempotencyKey = releaseRow.idempotencyKey ∧
      LastAsk earlier 0 row.tradeId seen ∧ ¬ Left decimal row seen := by
  have placed : (Mock.scenario (Mock.config [Mock.admin1, Mock.admin2] 1)
      [Mock.call Mock.buyer 1 (.createTrade Mock.order),
        Mock.call Mock.buyer 1 (.createTrade { Mock.order with buyerNonce := 1 })]).map
          (fun s => viewTrade (s.trades 1)) = some ⟨1, Mock.buyer, .locked, none⟩ := by decide +kernel
  obtain ⟨s, reached, locked⟩ := Option.map_eq_some_iff.mp placed
  obtain ⟨transactions, sound⟩ := Mock.scenario_run reached
  let onchain : Onchain mockChain := ⟨transactions, s, sound⟩
  have view : viewTrade (onchain.world.trades 1) = ⟨1, Mock.buyer, .locked, none⟩ := locked
  have outcome : ((rehearse plainSettings { lockedTrade with now := fun _ => 2400000 } oneRow
      [.start 0 .pollConfirmations, .go 0 5]).bind fun drive =>
      (Server.advance (Script.respond { lockedTrade with now := fun _ => 2400000 }) 0 drive).map fun next =>
        ((next.1.head?.any (givesUp 0 releaseRow.idempotencyKey) && next.1.tail.any (pollsAs 0) &&
          next.1.all (finds ⟨1, Mock.buyer, .locked, none⟩)), next.1.all unlimited)) = some (true, true) := by
    decide +kernel
  obtain ⟨drive, success, rest⟩ := Option.bind_eq_some_iff.mp outcome
  obtain ⟨next, last, facts⟩ := Option.map_eq_some_iff.mp rest
  simp only [Prod.mk.injEq] at facts
  obtain ⟨facts, free⟩ := facts
  obtain ⟨entry, earlier, updates, answer, run, answering, began, label, status, labels, _⟩ :=
    exhausting_run view (by decide +kernel) success last facts
  rw [← labels] at free
  have same : entry :: earlier = [] ++ entry :: earlier := rfl
  obtain ⟨row, now, seen, checks, keyed, ask, stays⟩ :=
    exhausted_undone run answering (unhindered_of_unlimited free) same began label status
  exact ⟨earlier, entry, _, updates, answer, row, now, seen, run, label, checks, keyed, ask, stays⟩

/-- Two rows of a trade that is done: the look for the first leaves none for the second. -/
theorem secondRow_exhausted : ∃ (seen : Onchain mockChain) (earlier : ServiceHistory (Onchain mockChain))
    (entry : ServiceEntry (Onchain mockChain)) (pool : ServicePool (Onchain mockChain)) (updates : UpdateTriggerData)
    (answer : Except ForeignError Unit),
    (service plainSettings (escrowOutside mockChain decimal)).system.Run (entry :: earlier) pool ∧
      Throughout Answering (entry :: earlier) ∧ Began earlier 0 .pollConfirmations ∧
      entry.label = .perform 0 ⟨.updateTrigger arrivalRow.idempotencyKey updates, answer⟩ ∧
      updates.status = some .exhaustedNeedsRedrive ∧
      pool.world.table.status arrivalRow.idempotencyKey = some .exhaustedNeedsRedrive ∧
      LastAsk earlier 0 arrivalRow.tradeId seen ∧ Left decimal arrivalRow seen := by
  obtain ⟨seen, view, changed⟩ := arrivedTrade_seen
  have outcome : ((rehearse plainSettings lateArrival twoRows [.start 0 .pollConfirmations, .go 0 8]).bind fun drive =>
      (Server.advance lateArrival.respond 0 drive).map fun next =>
        ((next.1.head?.any (givesUp 0 arrivalRow.idempotencyKey) && next.1.tail.any (pollsAs 0) &&
          next.1.all (finds ⟨1, Mock.buyer, .arrivalConfirmed, some 3000⟩)),
          next.1.tail.head?.any (asksFor 0 "1"), next.2.world.table.status arrivalRow.idempotencyKey)) =
      some (true, true, some .exhaustedNeedsRedrive) := by
    decide +kernel
  obtain ⟨drive, success, rest⟩ := Option.bind_eq_some_iff.mp outcome
  obtain ⟨next, last, facts⟩ := Option.map_eq_some_iff.mp rest
  simp only [Prod.mk.injEq] at facts
  obtain ⟨facts, asks, exhausted⟩ := facts
  have valid : checkTrade "1" ⟨1, Mock.buyer, .arrivalConfirmed, some 3000⟩ =
      .ok ⟨1, Mock.buyer, .arrivalConfirmed, some 3000⟩ := by decide +kernel
  have denoted : decimal arrivalRow.tradeId = some 1 := by decide +kernel
  obtain ⟨entry, earlier, updates, answer, run, answering, began, label, status, labels, still⟩ :=
    exhausting_run view valid success last facts
  rw [← labels] at asks
  cases earlier with
  | nil => cases asks
  | cons ask earlier =>
    obtain ⟨reply, asked⟩ := asksFor_eq asks
    refine ⟨seen, ask :: earlier, entry, _, updates, answer, run, answering, began, label, status, exhausted, ?_, ?_⟩
    · exact ⟨[], ask, earlier, reply, rfl, asked, still ask (by simp), List.forall_mem_nil _⟩
    · exact ⟨1, .arrivalConfirmed, denoted, by decide, changed⟩

end Agroasys.Oracle
