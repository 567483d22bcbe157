import Agroasys.Foundation.Transcripts
import Agroasys.Gateway.GovernanceExclusion

namespace Agroasys.Gateway

open Function Agroasys.Foundation Agroasys.Runtime Agroasys.Sdk

variable {utc : Int → Int} {config : GovernanceQueueConfig}

section Calls

/-- An answer of `queueAction` that its calls account for: it has added its record, or was given an action
that was there. -/
inductive Answered (config : GovernanceQueueConfig) (input : QueueGovernanceActionInput)
    (events : List (Event GovernanceEffect GovernanceAnswer)) (accepted : GovernanceMutationAccepted) : Prop where
  | created (drawn : ⟨.randomUUID, actionId⟩ ∈ events)
      (claimed : ⟨.claim (input.record config acceptedAt actionId) entry acceptedAt, .ok none⟩ ∈ events)
      (same : accepted = (input.record config acceptedAt actionId).accepted)
  | reused {row : GovernanceAction} (clock : ⟨.now, acceptedAt⟩ ∈ events)
      (claimed : ⟨.claim (input.record config acceptedAt actionId) entry acceptedAt, .ok (some existing)⟩ ∈ events)
      (read : ⟨.get existing, .ok (some saved)⟩ ∈ events)
      (last : row = saved ∨ ⟨.get saved.actionId, .ok (some row)⟩ ∈ events) (same : accepted = row.accepted)

/-- The calls of a program that has queued something lead to its answer. -/
def AnswersCalls (config : GovernanceQueueConfig) (call : GovernanceCall)
    (events : List (Event GovernanceEffect GovernanceAnswer)) : Except Failure GovernanceReply → Prop
  | .ok (.accepted accepted) => ∀ input, call = .queue input → Answered config input events accepted
  | _ => True

/-- An action that has to be there is one that was read. -/
theorem storedAction_reads {Role : Type} {protocol : Protocol GovernanceEffect GovernanceAnswer Role}
    {returns : Role → GovernanceAction → Prop} {role : Role} {message : String}
    (permitted : protocol.permits role (.get actionId))
    (returned : ∀ stored, returns (protocol.after role (.get actionId) (.ok (some stored))) stored) :
    protocol.Runs returns (fun _ _ => True) role (storedAction actionId message) := by
  unfold storedAction getAction
  apply Protocol.Runs.bind
  refine runs_ask permitted fun answer => .ofExcept (fun found same => ?_) fun _ _ => trivial
  subst same
  cases found with
  | none => exact .throw trivial
  | some stored => exact .pure (returned stored)

private theorem queueAction_answered (input : QueueGovernanceActionInput) :
    (transcript GovernanceAnswer).Runs (Answered config input) (fun _ _ => True) [] (queueAction config input) := by
  refine runs_ask trivial fun acceptedAt => runs_ask trivial fun actionId => ?_
  apply Protocol.Runs.bind
  refine runs_ask trivial fun answer => runs_check (fun claimed acknowledged => ?_) fun _ _ => trivial
  subst acknowledged
  cases claimed with
  | none =>
    refine .bind (storedAction_reads trivial fun stored => .pure (.pure ?_))
    exact .created (.tail _ (.tail _ (.head _))) (.tail _ (.head _)) rfl
  | some existing =>
    apply Protocol.Runs.bind
    refine storedAction_reads trivial fun storedExisting => ?_
    refine runs_ask trivial fun answer => runs_check (fun _ _ => ?_) fun _ _ => trivial
    apply Protocol.Runs.bind
    refine storedAction_reads trivial fun saved => .pure ?_
    apply Protocol.Runs.bind
    refine runs_ask trivial fun answer => .ofExcept (fun found same => .pure ?_) fun _ _ => trivial
    subst same
    have last : found.getD saved = saved ∨
        (⟨.get saved.actionId, .ok (some (found.getD saved))⟩ : Event GovernanceEffect GovernanceAnswer) ∈
          [⟨.get saved.actionId, .ok found⟩] := by
      cases found with
      | none => exact .inl rfl
      | some row => exact .inr List.mem_cons_self
    refine .reused ?_ (.tail _ (.tail _ (.tail _ (.tail _ (.head _))))) (.tail _ (.head _)) (last.imp_right ?_) rfl
    · exact .tail _ (.tail _ (.tail _ (.tail _ (.tail _ (.tail _ (.head _))))))
    · exact fun member => List.mem_singleton.mp member ▸ .head _

private theorem governance_answers (call : GovernanceCall) :
    (transcript GovernanceAnswer).Follows (AnswersCalls config call) []
      ((governanceServer hashtext utc config).program call) := by
  cases call with
  | queue input =>
    refine Protocol.Runs.follows (.bind ((queueAction_answered input).mono ?_ fun _ _ _ => trivial))
    intro events accepted answered
    refine .pure fun other same => ?_
    cases same
    exact answered
  | execute | clean | preview =>
    refine transcript_follows (fun events result => ?_) _ _
    unfold AnswersCalls
    split
    · intro input same
      cases same
    · trivial

end Calls

section Rows

variable {history : GovernanceHistory} {pool : GovernancePool} {action row other : GovernanceAction}
  {input : QueueGovernanceActionInput}

/-- A row that the table has held. -/
def Held (history : GovernanceHistory) (row : GovernanceAction) : Prop :=
  ∃ entry ∈ history, row ∈ entry.after.world.actions

/-- The request that a row comes from. -/
structure Originates (utc : Int → Int) (config : GovernanceQueueConfig) (history : GovernanceHistory)
    (row : GovernanceAction) (pid : Nat) (input : QueueGovernanceActionInput) : Prop where
  began : Began history pid (.queue input)
  drawn : Made history pid ⟨.randomUUID, row.actionId⟩
  outcome : ∃ acceptedAt, row = input.record config acceptedAt row.actionId ∨
    Settled history ((input.record config acceptedAt row.actionId).readBy utc) row

private theorem Settled.intentKey (settled : Settled history other row) : row.intentKey = other.intentKey := by
  cases settled with
  | ended _ stores => cases stores <;> rfl
  | _ => rfl

private theorem Originates.intentKey (originates : Originates utc config history row pid input) :
    row.intentKey = buildGovernanceIntentKey (input.intent config) := by
  obtain ⟨acceptedAt, same | settled⟩ := originates.outcome
  · rw [same]
    rfl
  · exact settled.intentKey

private theorem Originates.later (originates : Originates utc config history row pid input) (entry : GovernanceEntry) :
    Originates utc config (entry :: history) row pid input := by
  obtain ⟨began, drawn, acceptedAt, outcome⟩ := originates
  exact ⟨began.later entry, drawn.later entry, acceptedAt, outcome.imp_right fun settled => settled.later entry⟩

private theorem Accounted.originates (accounted : Accounted utc config history row) :
    ∃ pid input, Originates utc config history row pid input := by
  obtain ⟨original, ⟨pid, input, acceptedAt, began, _, drawn, same⟩, named, outcome⟩ := accounted
  rw [named] at same drawn
  exact ⟨pid, input, began, drawn, acceptedAt, same ▸ outcome⟩

/-- What the table has held comes from a request. -/
theorem held_originates (run : (governanceServer hashtext utc config).system.Run history pool) (held : Held history row) :
    ∃ pid input, Originates utc config history row pid input := by
  revert held
  apply run.history_invariant (P := fun history _ =>
    Held history row → ∃ pid input, Originates utc config history row pid input)
  · rintro _ _ ⟨_, member, _⟩
    cases member
  · rintro earlier state move next before taken ih ⟨entry, member, present⟩
    rcases List.mem_cons.mp member with rfl | member
    · have whole : (governanceServer hashtext utc config).system.Run (⟨state, move, next⟩ :: earlier) next :=
        before.extend (.single taken)
      exact ((run_accounts whole).rows row present).originates
    · obtain ⟨pid, input, originates⟩ := ih ⟨entry, member, present⟩
      exact ⟨pid, input, originates.later _⟩

private theorem drawn_once (fresh : Throughout FreshIds history) (drawn : Made history pid ⟨.randomUUID, uuid⟩)
    (drawn' : Made history pid' ⟨.randomUUID, uuid⟩) : pid = pid' := by
  have once : Throughout (Once (· = ⟨.randomUUID, uuid⟩)) history := by
    rintro later entry earlier same other event label rfl rival event' made rfl
    exact fresh later entry earlier same other uuid label rival made
  exact (made_once once drawn rfl drawn' rfl).1

/-- Rows of one id come from one request. -/
theorem Originates.unique (run : (governanceServer hashtext utc config).system.Run history pool)
    (fresh : Throughout FreshIds history) (originates : Originates utc config history row pid input)
    (originates' : Originates utc config history other pid' input') (same : row.actionId = other.actionId) :
    input = input' := by
  cases drawn_once fresh originates.drawn (same ▸ originates'.drawn)
  cases Server.began_unique run originates.began originates'.began
  rfl

private theorem mem_stays {before after : GovernanceTables} (changes : Changes hashtext before event after)
    (present : row ∈ before.actions) : ∃ other ∈ after.actions, other.actionId = row.actionId := by
  obtain ⟨found, known⟩ := get_of_mem present
  obtain ⟨other, stays⟩ := get_stays changes known
  exact ⟨other, get_mem stays, get_id stays⟩

/-- What the table has held is still there, perhaps changed. -/
theorem held_stays (run : (governanceServer hashtext utc config).system.Run history pool) (held : Held history row) :
    ∃ other ∈ pool.world.actions, other.actionId = row.actionId := by
  revert held
  apply run.history_invariant (P := fun history pool =>
    Held history row → ∃ other ∈ pool.world.actions, other.actionId = row.actionId)
  · rintro _ _ ⟨_, member, _⟩
    cases member
  · rintro earlier state move next before taken ih ⟨entry, member, present⟩
    rcases List.mem_cons.mp member with rfl | member
    · exact ⟨row, present, rfl⟩
    · obtain ⟨other, among, same⟩ := ih ⟨entry, member, present⟩
      cases move with
      | start =>
        rw [(Server.started taken).1]
        exact ⟨other, among, same⟩
      | perform pid event =>
        obtain ⟨_, _, served, _⟩ := taken
        obtain ⟨last, stored, named⟩ := mem_stays (served_changes served) among
        exact ⟨last, stored, named.trans same⟩
      | drift =>
        rw [taken.1]
        exact ⟨other, among, same⟩

/-- A row that is read is one that the table has held. -/
theorem read_held (run : (governanceServer hashtext utc config).system.Run history pool)
    (read : Made history pid ⟨.get actionId, .ok (some row)⟩) :
    ∃ stored, Held history stored ∧ stored.actionId = actionId ∧ row = stored.readBy utc := by
  obtain ⟨entry, member, label⟩ := read
  obtain ⟨_, _, _, _, taken, _⟩ := run.cut member
  rw [label] at taken
  obtain ⟨_, _, served, _⟩ := taken
  obtain ⟨stored, found, shown⟩ := served_get served
  obtain ⟨choice, executed⟩ := served
  have same : entry.after.world = entry.before.world := (Fate.executed_read executed).1
  exact ⟨stored, ⟨entry, member, by rw [same]; exact get_mem found⟩, get_id found, shown⟩

/-- A claim that is acknowledged has added its action, or names an open one of its key. -/
theorem claim_held (run : (governanceServer hashtext utc config).system.Run history pool)
    (claimed : Made history pid ⟨.claim action auditEntry now, .ok answer⟩) :
    (answer = none → Held history action) ∧ ∀ actionId, answer = some actionId →
      ∃ existing, Held history existing ∧ existing.actionId = actionId ∧ existing.open action.intentKey now = true := by
  obtain ⟨entry, member, label⟩ := claimed
  obtain ⟨_, _, _, _, taken, _⟩ := run.cut member
  rw [label] at taken
  obtain ⟨_, _, ⟨choice, executed⟩, _⟩ := taken
  have claims : entry.before.world.claim action auditEntry now = (answer, entry.after.world) :=
    Except.ok.inj (Fate.executed_ok executed)
  unfold GovernanceTables.claim at claims
  cases found : entry.before.world.findOpenByIntentKey action.intentKey now with
  | none =>
    rw [found] at claims
    obtain ⟨rfl, saved⟩ := Prod.mk.inj claims
    refine ⟨fun _ => ⟨entry, member, ?_⟩, fun _ named => by cases named⟩
    rw [← saved, mem_save]
    exact .inl rfl
  | some existing =>
    rw [found] at claims
    obtain ⟨rfl, same⟩ := Prod.mk.inj claims
    refine ⟨fun none => (by cases none), fun actionId named => ?_⟩
    cases named
    have among := newestAction_mem found
    rw [List.mem_filter] at among
    exact ⟨existing, ⟨entry, member, same ▸ among.1⟩, rfl, among.2⟩

/-- Rows of one id have one key. -/
theorem held_intentKey (run : (governanceServer hashtext utc config).system.Run history pool)
    (fresh : Throughout FreshIds history) (held : Held history row) (held' : Held history other)
    (same : row.actionId = other.actionId) : row.intentKey = other.intentKey := by
  obtain ⟨_, _, originates⟩ := held_originates run held
  obtain ⟨_, _, originates'⟩ := held_originates run held'
  rw [originates.intentKey, originates'.intentKey, originates.unique run fresh originates' same]

private theorem open_key (unclosed : row.open intentKey now = true) : row.intentKey = intentKey := by
  unfold GovernanceAction.open at unclosed
  simp only [Bool.and_eq_true, decide_eq_true_eq] at unclosed
  exact unclosed.1.1

/-- An answer names a row that has been there, the request's own or an open one of its key. -/
theorem Answered.held (run : (governanceServer hashtext utc config).system.Run history pool)
    (fresh : Throughout FreshIds history) (answered : Answered config input (eventsOf pid history) accepted) :
    ∃ held, Held history held ∧ held.actionId = accepted.actionId ∧ held.intentKey = accepted.intentKey ∧
      held.intentKey = buildGovernanceIntentKey (input.intent config) ∧
        (Made history pid ⟨.randomUUID, held.actionId⟩ ∨
          ∃ acceptedAt, Made history pid ⟨.now, acceptedAt⟩ ∧ held.open held.intentKey acceptedAt = true) := by
  cases answered with
  | created drawn claimed same =>
    subst same
    exact ⟨_, (claim_held run (made_iff.mpr claimed)).1 rfl, rfl, rfl, rfl, .inl (made_iff.mpr drawn)⟩
  | reused clock claimed read last same =>
    subst same
    obtain ⟨existing, held, rfl, unclosed⟩ := (claim_held run (made_iff.mpr claimed)).2 _ rfl
    rename_i saved acceptedAt actionId entry row
    have key := open_key unclosed
    obtain ⟨stored, known, named, rfl⟩ := read_held run (made_iff.mpr read)
    obtain ⟨shown, among, same, rfl⟩ : ∃ shown, Held history shown ∧ shown.actionId = existing.actionId ∧
        row = shown.readBy utc := by
      rcases last with rfl | again
      · exact ⟨stored, known, named, rfl⟩
      · obtain ⟨shown, among, same, read⟩ := read_held run (made_iff.mpr again)
        exact ⟨shown, among, same.trans named, read⟩
    have keys : existing.intentKey = shown.intentKey := held_intentKey run fresh held among same.symm
    exact ⟨existing, held, same.symm, keys, key, .inr ⟨acceptedAt, made_iff.mpr clock, key.symm ▸ unclosed⟩⟩

end Rows

section Requests

variable {σ : Type} {ethers : Ethers} {history : GovernanceHistory} {pool : GovernancePool} {row : GovernanceAction}
  {input original : QueueGovernanceActionInput}

/-- What a route gives `queueAction` for a request that it lets through. -/
structure Admits (config : GovernanceQueueConfig) (submission : Submission ethers σ) (input : QueueGovernanceActionInput) :
    Prop where
  queued : input.toQueuedAction = submission.queued
  tradeId : input.tradeId = none
  wallet : input.context.principal.session.walletAddress = submission.request.walletAddress
  chainId : config.chainId = submission.chainId

/-- Two requests ask for one call on chain, and for an approval of one wallet. -/
structure QueueGovernanceActionInput.SameCall (ethers : Ethers) (input other : QueueGovernanceActionInput) : Prop where
  category : input.category = other.category
  contractMethod : input.contractMethod = other.contractMethod
  proposalId : input.proposalId = other.proposalId
  targetAddress : input.targetAddress.bind ethers.getAddress = other.targetAddress.bind ethers.getAddress
  tradeId : input.tradeId = other.tradeId
  approver : isApprovalGovernanceContractMethod input.contractMethod = true →
    toLowerCase input.context.principal.session.walletAddress =
      toLowerCase other.context.principal.session.walletAddress

private theorem Admits.intentKey {submission : Submission ethers σ} (admits : Admits config submission input) :
    buildGovernanceIntentKey (input.intent config) = submission.intentKey := by
  obtain ⟨queued, tradeId, wallet, chainId⟩ := admits
  rw [Submission.intentKey, Submission.intent, ← queued, QueueGovernanceActionInput.intent, tradeId, wallet, chainId]

/-- Requests of one key ask for one call. -/
theorem Admits.sameCall (checksums : ethers.Checksums) (marked : ethers.Marked) (caseless : ethers.Caseless)
    {submission submission' : Submission ethers σ} (admits : Admits config submission original)
    (admits' : Admits config submission' input)
    (same : buildGovernanceIntentKey (original.intent config) = buildGovernanceIntentKey (input.intent config)) :
    original.SameCall ethers input := by
  rw [admits.intentKey, admits'.intentKey, intentKey_alike checksums marked caseless] at same
  obtain ⟨category, contractMethod, proposalId, targetAddress, _, approver⟩ := same
  have targets := lowered_targets marked caseless (submission.proper checksums).targetAddress
    (submission'.proper checksums).targetAddress targetAddress
  rw [← admits.queued] at category contractMethod proposalId targets approver
  rw [← admits'.queued] at category contractMethod proposalId targets
  refine ⟨category, contractMethod, proposalId, targets, admits.tradeId.trans admits'.tradeId.symm, fun approves => ?_⟩
  rw [admits.wallet, admits'.wallet, submission.spelled.lowered, submission'.spelled.lowered, approver approves]

/-- A caller is answered with an action for what it asked for: its own, or one that was open when it asked. -/
structure Honoured (ethers : Ethers) (utc : Int → Int) (config : GovernanceQueueConfig) (history : GovernanceHistory)
    (pid : Nat) (input : QueueGovernanceActionInput) (accepted : GovernanceMutationAccepted) (row : GovernanceAction) :
    Prop where
  named : row.actionId = accepted.actionId
  intentKey : row.intentKey = accepted.intentKey
  origin : ∃ other original, Originates utc config history row other original ∧ original.SameCall ethers input ∧
    (other = pid ∨ ∃ acceptedAt existing, Made history pid ⟨.now, acceptedAt⟩ ∧ Held history existing ∧
      existing.actionId = row.actionId ∧ existing.open row.intentKey acceptedAt = true)

/-- Whoever queues an action is answered with one in the table for the very call it asked for. -/
theorem queue_answers (checksums : ethers.Checksums) (marked : ethers.Marked) (caseless : ethers.Caseless)
    (run : (governanceServer hashtext utc config).system.Run history pool) (fresh : Throughout FreshIds history)
    (admitted : ∀ pid input, Began history pid (.queue input) →
      ∃ submission : Submission ethers σ, Admits config submission input)
    (began : Began history pid (.queue input))
    (finished : pool.running pid = some (.done (.ok (.accepted accepted)))) :
    ∃ row ∈ pool.world.actions, Honoured ethers utc config history pid input accepted row := by
  obtain ⟨call, again, answers⟩ := Server.finished_calls governance_answers run finished
  cases Server.began_unique run began again
  have answered : Answered config input (eventsOf pid history) accepted := answers input rfl
  obtain ⟨held, known, named, accepts, key, mine⟩ := answered.held run fresh
  obtain ⟨row, member, same⟩ := held_stays run known
  obtain ⟨other, original, originates⟩ := ((run_accounts run).rows row member).originates
  obtain ⟨_, _, source⟩ := held_originates run known
  have keys : row.intentKey = held.intentKey := by
    rw [originates.intentKey, source.intentKey, originates.unique run fresh source same]
  obtain ⟨submission, admits⟩ := admitted pid input began
  obtain ⟨submission', admits'⟩ := admitted other original originates.began
  refine ⟨row, member, same.trans named, keys.trans accepts, other, original, originates, ?_, ?_⟩
  · refine admits'.sameCall checksums marked caseless admits ?_
    rw [← originates.intentKey, keys, key]
  · refine mine.imp (fun drawn => ?_) fun ⟨acceptedAt, clock, unclosed⟩ => ?_
    · exact drawn_once fresh originates.drawn (same.symm ▸ drawn)
    · exact ⟨acceptedAt, held, clock, known, same.symm, keys.symm ▸ unclosed⟩

end Requests

section Scenarios

def pauseInput : QueueGovernanceActionInput where
  category := .pause
  contractMethod := "pause"
  proposalId := none
  targetAddress := none
  tradeId := none
  audit := queueAudit
  context := { queueContext with
    principal := ⟨⟨"admin-1", adminRequest.walletAddress, .admin, 0, 3600⟩, [.operatorRead, .operatorWrite], true⟩
    routePath := "/governance/pause" }

private theorem pauseInput_admitted : ∃ submission : Submission plainEthers Escrow.MockUSDC,
    Admits queueConfig submission pauseInput := by
  obtain ⟨s, _, success, _⟩ := @deployed_world [Escrow.Mock.admin1, Escrow.Mock.admin2] (by decide +kernel)
  have passes : (Escrow.Mock.scenario (Escrow.Mock.config [Escrow.Mock.admin1, Escrow.Mock.admin2] 1) []).map (fun s =>
      (GovernanceRoute.pause.queue plainEthers (governanceContract plainEthers s) 2 adminRequest).toOption) =
        some (some ⟨.pause, "pause", none, none⟩) := by
    decide +kernel
  rw [success] at passes
  exact ⟨⟨.pause, s, 2, adminRequest, .infinite, Escrow.Mock.admin1, _, adminRequest_spelled, adminRequest_wallet,
    succeeds_with (Option.some.inj passes)⟩, rfl, rfl, rfl, rfl⟩

def acceptedBy (pool : GovernancePool) (pid : Nat) : Option GovernanceMutationAccepted :=
  match pool.running pid with
  | some (.done (.ok (.accepted accepted))) => some accepted
  | _ => none

private theorem running_of_acceptedBy {pool : GovernancePool} (answered : acceptedBy pool pid = some accepted) :
    pool.running pid = some (.done (.ok (.accepted accepted))) := by
  unfold acceptedBy at answered
  split at answered
  · rename_i present
    cases answered
    exact present
  · cases answered

/-- Two admins ask for one pause, and the second is answered with the first one's action. -/
theorem pause_answered :
    ∃ (history : GovernanceHistory) (pool : GovernancePool) (accepted : GovernanceMutationAccepted)
      (row : GovernanceAction), (governanceServer (fun _ => 0) id queueConfig).system.Run history pool ∧
        pool.running 1 = some (.done (.ok (.accepted accepted))) ∧ accepted.actionId = "action-1" ∧
          row ∈ pool.world.actions ∧ Honoured plainEthers id queueConfig history 1 pauseInput accepted row := by
  obtain ⟨recording, run, begun, checked⟩ := (governanceServer (fun _ => 0) id queueConfig).record_calls
    (governanceServing (fun _ => 0) id) (executing (minedAt 7)) noActions
    [.start 0 (.queue pauseInput), .go 0 4, .start 1 (.queue pauseInput), .go 1 7]
    (fun recording => checkEach freshDraw recording.history &&
      (acceptedBy recording.pool 1).any (·.actionId = "action-1"))
    rfl ⟨rfl, rfl, fun _ => rfl⟩ (by decide +kernel)
  rw [Bool.and_eq_true, Option.any_eq_true] at checked
  obtain ⟨fresh, accepted, answered, named⟩ := checked
  have finished := running_of_acceptedBy answered
  have admitted (pid : Nat) (input : QueueGovernanceActionInput) (began : Began recording.history pid (.queue input)) :
      ∃ submission : Submission plainEthers Escrow.MockUSDC, Admits queueConfig submission input := by
    have listed := (begun pid (.queue input)).mp began
    simp only [List.filterMap_cons, Cue.begun, List.filterMap_nil, List.mem_cons, List.not_mem_nil, or_false,
      Prod.mk.injEq, GovernanceCall.queue.injEq] at listed
    rcases listed with ⟨_, rfl⟩ | ⟨_, rfl⟩ <;> exact pauseInput_admitted
  have began : Began recording.history 1 (.queue pauseInput) := (begun 1 (.queue pauseInput)).mpr (by simp [Cue.begun])
  obtain ⟨row, member, honoured⟩ := queue_answers plainEthers_checksums plainEthers_marked plainEthers_caseless run
    (throughout_of_checkEach (fun _ _ => fresh_of_freshDraw) fresh) admitted began finished
  exact ⟨recording.history, recording.pool, accepted, row, run, finished, of_decide_eq_true named, member, honoured⟩

end Scenarios

end Agroasys.Gateway
