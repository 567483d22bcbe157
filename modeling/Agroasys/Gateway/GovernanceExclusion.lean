import Agroasys.Gateway.GovernanceAccounts

/-! What excludes what in the queue of governance actions: one live action of each key, and one executor
that starts an action on chain or stores anything for it. -/

namespace Agroasys.Gateway

open Function Agroasys.Foundation

variable {hashtext : String → Int} {utc : Int → Int} {config : GovernanceQueueConfig} {history : GovernanceHistory}
  {pool next : GovernancePool} {action row : GovernanceAction} {stage : GovernanceStage}

section Keys

/-- At this time the action waits in the queue. -/
def GovernanceAction.Live (action : GovernanceAction) (now : Int) : Prop :=
  action.status = .requested ∧ action.createdAt ≤ now ∧ isExpiredRequestedGovernanceAction action now = false

private theorem isExpired_iff : isExpiredRequestedGovernanceAction action now = true ↔
    action.status = .requested ∧ ∃ expiresAt, action.expiresAt = some expiresAt ∧ expiresAt ≤ now := by
  unfold isExpiredRequestedGovernanceAction
  rw [Bool.and_eq_true, decide_eq_true_eq, Option.any_eq_true]
  simp

/-- The rows have different ids, and of two requested ones of a key one had expired when the other was
queued. -/
structure KeysApart (actions : List GovernanceAction) : Prop where
  unique : ∀ row ∈ actions, ∀ other ∈ actions, row.actionId = other.actionId → row = other
  apart : ∀ row ∈ actions, ∀ other ∈ actions, row.actionId ≠ other.actionId → row.intentKey = other.intentKey →
    row.status = .requested → other.status = .requested →
      isExpiredRequestedGovernanceAction row other.createdAt = true ∨
        isExpiredRequestedGovernanceAction other row.createdAt = true

private theorem KeysApart.save {world : GovernanceTables} (apart : KeysApart world.actions)
    (expired : ∀ other ∈ world.actions, other.intentKey = action.intentKey → action.status = .requested →
      other.status = .requested → isExpiredRequestedGovernanceAction other action.createdAt = true) :
    KeysApart (world.save action entry).actions := by
  constructor
  · intro row member other member' same
    rcases mem_save.mp member with rfl | ⟨member, different⟩
    · rcases mem_save.mp member' with rfl | ⟨_, different⟩
      · rfl
      · exact absurd same.symm different
    · rcases mem_save.mp member' with rfl | ⟨member', _⟩
      · exact absurd same different
      · exact apart.unique row member other member' same
  · intro row member other member' different key requested requested'
    rcases mem_save.mp member with rfl | ⟨old, _⟩
    · rcases mem_save.mp member' with rfl | ⟨old', _⟩
      · exact absurd rfl different
      · exact .inr (expired other old' key.symm requested requested')
    · rcases mem_save.mp member' with rfl | ⟨old', _⟩
      · exact .inl (expired row old key requested' requested)
      · exact apart.apart row old other old' different key requested requested'

private theorem KeysApart.live (apart : KeysApart pool.world.actions) (member : row ∈ pool.world.actions)
    (member' : other ∈ pool.world.actions) (key : row.intentKey = other.intentKey) (live : row.Live now)
    (live' : other.Live now) : row = other := by
  refine apart.unique row member other member' ?_
  by_contra different
  have outlived {first second : GovernanceAction} (live : first.Live now) (live' : second.Live now) :
      isExpiredRequestedGovernanceAction first second.createdAt ≠ true := by
    intro expired
    obtain ⟨requested, expiresAt, dated, before⟩ := isExpired_iff.mp expired
    have gone : isExpiredRequestedGovernanceAction first now = true :=
      isExpired_iff.mpr ⟨requested, expiresAt, dated, before.trans live'.2.1⟩
    rw [live.2.2] at gone
    cases gone
  rcases apart.apart row member other member' different key live.1 live'.1 with expired | expired
  · exact outlived live live' expired
  · exact outlived live' live expired

end Keys

section Rivals

/-- The execution of an action on chain is started. One that is given up for its time goes on by itself, and
may be broadcast after its outcome is stored. -/
def Starts (pid : Nat) (actionId : String) (entry : GovernanceEntry) : Prop :=
  ∃ action result, entry.label = .perform pid ⟨.execute action, result⟩ ∧ action.actionId = actionId

/-- What an executor saves takes effect, whether it is told so or not. -/
def Settles (pid : Nat) (actionId : String) (entry : GovernanceEntry) : Prop :=
  ∃ action auditEntry answer, entry.label = .perform pid ⟨.saveAction action auditEntry, answer⟩ ∧
    auditEntry.method = "EXECUTE" ∧ action.actionId = actionId ∧
      entry.after.world = entry.before.world.save action auditEntry

/-- An executor that starts an action or stores something for it is the only one that can still do so: no
outcome of an executor is stored yet, and who else has started the action has ended. -/
def Unrivalled (earlier : GovernanceHistory) (entry : GovernanceEntry) : Prop :=
  ∀ pid actionId, Starts pid actionId entry ∨ Settles pid actionId entry → ∀ past ∈ earlier, ∀ other,
    ¬ Settles other actionId past ∧ (Starts other actionId past → (Starts pid actionId entry ∨ other ≠ pid) →
      ¬ entry.before.Live other)

/-- The ids that are drawn are different. -/
def FreshIds (earlier : GovernanceHistory) (entry : GovernanceEntry) : Prop :=
  ∀ pid uuid, entry.label = .perform pid ⟨.randomUUID, uuid⟩ → ∀ other, ¬ Made earlier other ⟨.randomUUID, uuid⟩

/-- The action that a program is about to change. -/
def GovernanceStage.existing : GovernanceStage → Option GovernanceAction
  | .holding _ attempt => attempt.existing
  | .condemning _ current => some current
  | _ => none

/-- The executor has nothing more to start. -/
def Attempt.Spent : Attempt → Prop
  | .sent _ _ _ _ | .left => True
  | _ => False

theorem Attempt.Spent.after {attempt : Attempt} (spent : attempt.Spent) (permitted : attempt.permits request effect)
    (answer : GovernanceAnswer effect) : (attempt.after request effect answer).Spent := by
  cases attempt with
  | sent | left => cases effect <;> exact trivial
  | _ => cases spent

/-- What an executor works on is what it worked on, or what it has just read. -/
theorem existing_after {attempt : Attempt} {answer : GovernanceAnswer effect} (permitted : attempt.permits request effect)
    (works : (attempt.after request effect answer).existing = some action) :
    (attempt.existing = some action ∨
      (Event.mk effect answer = ⟨.get request.actionId, .ok (some action)⟩ ∧ action.status = .requested)) ∧
      ∀ saved entry, effect ≠ .saveAction saved entry := by
  cases attempt with
  | entered =>
    cases effect with
    | get actionId =>
      cases permitted
      cases answer with
      | error => cases works
      | ok row =>
        cases row with
        | none => cases works
        | some existing =>
          change (if existing.status = .requested then Attempt.found existing else .left).existing = some action at works
          split at works
          · rename_i requested
            cases works
            exact ⟨.inr ⟨rfl, requested⟩, fun _ _ same => by cases same⟩
          · cases works
    | _ => cases permitted
  | found existing =>
    cases effect with
    | now =>
      change (if isExpiredRequestedGovernanceAction existing answer then Attempt.overdue existing answer
        else .checked existing answer).existing = some action at works
      split at works <;> exact ⟨.inl works, fun _ _ same => by cases same⟩
    | _ => cases permitted
  | overdue | unsigned | sent =>
    cases effect with
    | saveAction => cases works
    | now | getGovernanceStatus | getUnpauseProposalState | getTreasuryPayoutReceiverProposalState
    | getOracleProposalState => exact ⟨.inl works, fun _ _ same => by cases same⟩
    | _ => cases permitted
  | checked existing now =>
    cases effect with
    | getSignerAddress => cases answer <;> exact ⟨.inl works, fun _ _ same => by cases same⟩
    | _ => cases permitted
  | signed existing now executorWallet =>
    cases effect with
    | appendAudit entry =>
      cases answer with
      | error => cases works
      | ok =>
        change (if entry = request.startedEntry existing executorWallet then
          Attempt.started existing now executorWallet else .left).existing = some action at works
        split at works
        · exact ⟨.inl works, fun _ _ same => by cases same⟩
        · cases works
    | _ => cases permitted
  | started =>
    cases effect with
    | execute => exact ⟨.inl works, fun _ _ same => by cases same⟩
    | _ => cases permitted
  | left =>
    cases effect with
    | get => cases works
    | _ => cases permitted

theorem save_existing (permitted : stage.permits config (.saveAction action entry)) :
    ∃ existing, stage.existing = some existing ∧ action.actionId = existing.actionId ∧ action.status ≠ .requested := by
  cases stage with
  | holding request attempt =>
    cases attempt with
    | overdue existing | unsigned existing =>
      obtain ⟨_, rfl, _⟩ := permitted
      exact ⟨existing, rfl, rfl, fun status => by cases status⟩
    | sent existing now executorWallet result =>
      obtain ⟨same, status⟩ := Stores.settled permitted
      exact ⟨existing, rfl, same, status⟩
    | _ => cases permitted
  | condemning now current =>
    obtain ⟨_, rfl, _⟩ := permitted
    exact ⟨current, rfl, rfl, fun status => by cases status⟩
  | _ => cases permitted

/-- What is saved as an executor does is saved under the lock. -/
theorem save_holding (permitted : stage.permits config (.saveAction action entry)) (method : entry.method = "EXECUTE") :
    ∃ request attempt existing, stage = .holding request attempt ∧ attempt.existing = some existing ∧
      action.actionId = existing.actionId := by
  obtain ⟨existing, works, same, _⟩ := save_existing permitted
  cases stage with
  | holding request attempt => exact ⟨request, attempt, existing, rfl, works, same⟩
  | condemning now current =>
    obtain ⟨_, _, rfl⟩ := permitted
    exact absurd method (by simp [cleanupEntry])
  | _ => cases permitted

/-- What is known of those that work on an action. -/
structure Rivalry (config : GovernanceQueueConfig) (history : GovernanceHistory) (pool : GovernancePool) : Prop where
  drawn : ∀ pid other uuid, Made history pid ⟨.randomUUID, uuid⟩ → Made history other ⟨.randomUUID, uuid⟩ → pid = other
  claims : ∀ actionId row, pool.world.get actionId = some row → ∃ pid input,
    Made history pid ⟨.randomUUID, actionId⟩ ∧ stagesOf config history pid = some (.answering input)
  present : ∀ pid stage action, stagesOf config history pid = some stage → stage.existing = some action →
    ∃ row, pool.world.get action.actionId = some row
  settled : ∀ past ∈ history, ∀ pid actionId, Settles pid actionId past →
    ∃ row, pool.world.get actionId = some row ∧ row.status ≠ .requested
  unsettled : ∀ pid request attempt action, stagesOf config history pid = some (.holding request attempt) →
    attempt.existing = some action → ∀ past ∈ history, ∀ other, ¬ Settles other action.actionId past
  starters : ∀ past ∈ history, ∀ pid actionId, Starts pid actionId past →
    stagesOf config history pid = some .closed ∨ ∃ request attempt,
      stagesOf config history pid = some (.holding request attempt) ∧ request.actionId = actionId ∧ attempt.Spent

/-- The action that an executor works on is the one it was asked for. -/
theorem works_asked (run : (governanceServer hashtext utc config).system.Run history pool)
    (staged : stagesOf config history pid = some (.holding request attempt)) (works : attempt.existing = some action) :
    action.actionId = request.actionId := by
  obtain ⟨call, _, _, _, backed⟩ := stage_backed run staged
  have found : Found (Made history pid) request action := by
    cases attempt with
    | entered | left => cases works
    | found =>
      cases works
      exact backed
    | overdue | unsigned =>
      cases works
      exact backed.1
    | checked =>
      cases works
      exact Checked.toFound backed
    | signed =>
      cases works
      exact (Signed.toChecked backed).toFound
    | started =>
      cases works
      exact (Started.toSigned backed).toChecked.toFound
    | sent =>
      cases works
      exact backed.1.toFound
  obtain ⟨original, _, same, rfl⟩ := (run_accounts run).reads pid request.actionId action found.read found.requested
  exact same

theorem get_stays {before after : GovernanceTables} (changes : Changes hashtext before event after)
    (present : before.get actionId = some row) : ∃ row, after.get actionId = some row := by
  rcases changes_actions changes with same | ⟨action, entry, _, _, _, _, rfl⟩ | ⟨action, entry, _, _, rfl⟩
  · unfold GovernanceTables.get at present ⊢
    exact ⟨row, same ▸ present⟩
  · rw [get_save]
    split
    · exact ⟨action, rfl⟩
    · exact ⟨row, present⟩
  · rw [get_save]
    split
    · exact ⟨action, rfl⟩
    · exact ⟨row, present⟩

theorem get_same {before after : GovernanceTables} (same : after.actions = before.actions) (actionId : String) :
    after.get actionId = before.get actionId := by
  unfold GovernanceTables.get
  rw [same]

private theorem stage_existing_after {answer : GovernanceAnswer effect} (permitted : stage.permits config effect)
    (works : (stage.after effect answer).existing = some action) :
    stage.existing = some action ∨ ∃ actionId, Event.mk effect answer = ⟨.get actionId, .ok (some action)⟩ := by
  cases stage with
  | holding request attempt =>
    cases effect with
    | survive actionId =>
      change (if answer = true then GovernanceStage.holding request attempt else .closed).existing = some action at works
      split at works
      · exact .inl works
      · cases works
    | unlock => cases works
    | _ =>
      rcases (existing_after permitted works).1 with before | ⟨read, _⟩
      · exact .inl before
      · exact .inr ⟨_, read⟩
  | sweeping now =>
    cases effect with
    | get actionId =>
      cases answer with
      | error => cases works
      | ok row =>
        cases row with
        | none => cases works
        | some current =>
          change (if isExpiredRequestedGovernanceAction current now then
            GovernanceStage.condemning now current else .sweeping now).existing = some action at works
          split at works
          · cases works
            exact .inr ⟨actionId, rfl⟩
          · cases works
    | randomUUID | listRequestedExpired => cases works
    | _ => cases permitted
  | waiting request =>
    cases effect with
    | lock => cases answer <;> cases works
    | _ => cases permitted
  | condemning now current =>
    cases effect with
    | saveAction => cases works
    | _ => cases permitted
  | queueing | dated | drafted | answering | inspecting | condemned => cases effect <;> cases works
  | closed => cases permitted

/-- An executor under its lock came there by a call that its attempt permits, or has just got the lock. -/
theorem holding_after {answer : GovernanceAnswer effect} (permitted : stage.permits config effect)
    (holds : stage.after effect answer = .holding request attempt) :
    (stage = .waiting request ∧ attempt = .entered) ∨ ∃ before, stage = .holding request before ∧
      ((attempt = before ∧ ∃ actionId, effect = .survive actionId) ∨
        (before.permits request effect ∧ attempt = before.after request effect answer)) := by
  cases stage with
  | holding asked before =>
    cases effect with
    | survive actionId =>
      change (if answer = true then GovernanceStage.holding asked before else .closed) = _ at holds
      split at holds
      · cases holds
        exact .inr ⟨_, rfl, .inl ⟨rfl, actionId, rfl⟩⟩
      · cases holds
    | unlock => cases holds
    | _ =>
      cases holds
      exact .inr ⟨before, rfl, .inr ⟨permitted, rfl⟩⟩
  | waiting asked =>
    cases effect with
    | lock =>
      cases answer with
      | ok =>
        cases holds
        exact .inl ⟨rfl, rfl⟩
      | error => cases holds
    | _ => cases permitted
  | sweeping now =>
    cases effect with
    | get actionId =>
      cases answer with
      | error => cases holds
      | ok row =>
        cases row with
        | none => cases holds
        | some current =>
          change (if isExpiredRequestedGovernanceAction current now then
            GovernanceStage.condemning now current else .sweeping now) = _ at holds
          split at holds <;> cases holds
    | randomUUID | listRequestedExpired => cases holds
    | _ => cases permitted
  | queueing | dated | drafted | answering | inspecting | condemning | condemned => cases effect <;> cases holds
  | closed => cases permitted

private theorem settles_holding
    (acts : (governanceServer hashtext utc config).Acts (governanceStages config) GovernanceCall.enter history pool pid event
      stage next) (settles : Settles other actionId ⟨pool, .perform pid event, next⟩) :
    other = pid ∧ ∃ request attempt, stage = .holding request attempt ∧ request.actionId = actionId ∧
      ∃ action entry answer, event = ⟨.saveAction action entry, answer⟩ := by
  obtain ⟨action, entry, answer, label, method, rfl, _⟩ := settles
  cases label
  obtain ⟨request, attempt, existing, rfl, works, same⟩ := save_holding acts.permitted method
  refine ⟨rfl, request, attempt, rfl, ?_, action, entry, answer, rfl⟩
  rw [same, works_asked acts.run acts.assigned works]

private theorem starts_holding
    (acts : (governanceServer hashtext utc config).Acts (governanceStages config) GovernanceCall.enter history pool pid event
      stage next) (starts : Starts other actionId ⟨pool, .perform pid event, next⟩) :
    other = pid ∧ ∃ request action now executorWallet result,
      stage = .holding request (.started action now executorWallet) ∧ request.actionId = actionId ∧
        action.actionId = actionId ∧ event = ⟨.execute action, result⟩ := by
  obtain ⟨action, result, label, rfl⟩ := starts
  cases label
  obtain ⟨request, now, executorWallet, rfl⟩ := execute_started acts.permitted
  exact ⟨rfl, request, action, now, executorWallet, result, rfl, (works_asked acts.run acts.assigned rfl).symm, rfl, rfl⟩

/-- Two programs that hold the lock of one action are one. -/
theorem same_lock
    (acts : (governanceServer hashtext utc config).Acts (governanceStages config) GovernanceCall.enter history pool pid event
      stage next) (staged : stagesOf config history other = some (.holding request attempt))
    (holding : stage = .holding request' attempt') (same : request.actionId = request'.actionId) : other = pid := by
  subst holding
  have locks := run_locks acts.run
  exact locks.alone other pid _ _ (hashtext request'.actionId) staged (by rw [lockOf, same]) acts.assigned rfl

section Step

variable (rivalry : Rivalry config history pool)
  (acts : (governanceServer hashtext utc config).Acts (governanceStages config) GovernanceCall.enter history pool pid event
    stage next)

include rivalry acts

/-- An action that is queued has an id that no other has. -/
theorem Rivalry.unused (claims : event.effect = .claim action entry now) : pool.world.get action.actionId = none := by
  obtain ⟨effect, answer⟩ := event
  cases claims
  have permitted := acts.permitted
  cases stage with
  | drafted input acceptedAt actionId =>
    obtain ⟨rfl, _, _⟩ := permitted
    obtain ⟨call, _, _, _, drawn⟩ := stage_backed acts.run acts.assigned
    cases found : pool.world.get actionId with
    | none => exact found
    | some row =>
      obtain ⟨other, input', drawn', answering⟩ := rivalry.claims actionId row found
      cases rivalry.drawn pid other actionId drawn drawn'
      cases acts.assigned.symm.trans answering
  | holding request attempt => cases attempt <;> cases permitted
  | _ => cases permitted

theorem Rivalry.saved_present (saves : event.effect = .saveAction action entry) :
    ∃ row, pool.world.get action.actionId = some row := by
  obtain ⟨effect, answer⟩ := event
  cases saves
  obtain ⟨existing, works, same, _⟩ := save_existing acts.permitted
  rw [same]
  exact rivalry.present pid stage existing acts.assigned works

theorem Rivalry.claims_step (actionId : String) (row : GovernanceAction) (present : next.world.get actionId = some row) :
    ∃ other input, Made (⟨pool, .perform pid event, next⟩ :: history) other ⟨.randomUUID, actionId⟩ ∧
      update (stagesOf config history) pid (some (stage.after event.effect event.answer)) other =
        some (.answering input) := by
  have old {row : GovernanceAction} (present : pool.world.get actionId = some row) :
      ∃ other input, Made (⟨pool, .perform pid event, next⟩ :: history) other ⟨.randomUUID, actionId⟩ ∧
        update (stagesOf config history) pid (some (stage.after event.effect event.answer)) other =
          some (.answering input) := by
    obtain ⟨other, input, drawn, answering⟩ := rivalry.claims actionId row present
    refine ⟨other, input, drawn.later _, ?_⟩
    by_cases same : other = pid
    · subst same
      cases acts.assigned.symm.trans answering
      rw [update_self]
      rfl
    · rwa [update_of_ne same]
  rcases changes_actions (served_changes acts.served) with same | ⟨action, entry, now, answer, rfl, _, saved⟩ |
      ⟨action, entry, answer, rfl, saved⟩
  · rw [get_same same] at present
    exact old present
  · rw [saved, get_save] at present
    split at present
    · rename_i claimed
      subst claimed
      have permitted := acts.permitted
      cases stage with
      | drafted input acceptedAt actionId =>
        obtain ⟨rfl, _, _⟩ := permitted
        obtain ⟨call, _, _, _, drawn⟩ := stage_backed acts.run acts.assigned
        exact ⟨pid, input, drawn.later _, update_self ..⟩
      | holding request attempt => cases attempt <;> cases permitted
      | _ => cases permitted
    · exact old present
  · rw [saved, get_save] at present
    split at present
    · rename_i same
      subst same
      obtain ⟨row, present⟩ := rivalry.saved_present acts rfl
      exact old present
    · exact old present

private theorem Rivalry.present_step (other : Nat) (stage' : GovernanceStage) (action : GovernanceAction)
    (staged : update (stagesOf config history) pid (some (stage.after event.effect event.answer)) other = some stage')
    (works : stage'.existing = some action) : ∃ row, next.world.get action.actionId = some row := by
  have changes := served_changes acts.served
  rcases update_assigned staged with ⟨rfl, rfl⟩ | ⟨_, staged⟩
  · rcases stage_existing_after acts.permitted works with before | ⟨actionId, read⟩
    · obtain ⟨row, present⟩ := rivalry.present other stage action acts.assigned before
      exact get_stays changes present
    · have served := acts.served
      rw [show event = ⟨.get actionId, .ok (some action)⟩ from read] at served
      obtain ⟨stored, found, rfl⟩ := served_get served
      rw [readBy_actionId, get_id found]
      exact get_stays changes found
  · obtain ⟨row, present⟩ := rivalry.present other stage' action staged works
    exact get_stays changes present

theorem Rivalry.settled_step (past : GovernanceEntry) (member : past ∈ ⟨pool, .perform pid event, next⟩ :: history)
    (other : Nat) (actionId : String) (settles : Settles other actionId past) :
    ∃ row, next.world.get actionId = some row ∧ row.status ≠ .requested := by
  rcases List.mem_cons.mp member with rfl | member
  · obtain ⟨action, entry, answer, label, _, same, saved⟩ := settles
    cases label
    obtain ⟨_, _, _, status⟩ := save_existing acts.permitted
    have world : next.world = pool.world.save action entry := saved
    exact ⟨action, by rw [world, get_save, if_pos same.symm], status⟩
  · obtain ⟨row, present, status⟩ := rivalry.settled past member other actionId settles
    rcases changes_actions (served_changes acts.served) with same | ⟨action, entry, now, answer, rfl, _, saved⟩ |
        ⟨action, entry, answer, rfl, saved⟩
    · exact ⟨row, by rw [get_same same, present], status⟩
    · have unused := rivalry.unused acts rfl
      rw [saved, get_save, if_neg]
      · exact ⟨row, present, status⟩
      · rintro rfl
        cases present.symm.trans unused
    · obtain ⟨_, _, _, unrequested⟩ := save_existing acts.permitted
      rw [saved, get_save]
      split
      · exact ⟨action, rfl, unrequested⟩
      · exact ⟨row, present, status⟩

theorem Rivalry.unsettled_step (other : Nat) (request : ExecutorRequest) (attempt : Attempt) (action : GovernanceAction)
    (staged : update (stagesOf config history) pid (some (stage.after event.effect event.answer)) other =
      some (.holding request attempt)) (works : attempt.existing = some action) (past : GovernanceEntry)
    (member : past ∈ ⟨pool, .perform pid event, next⟩ :: history) (settler : Nat) :
    ¬ Settles settler action.actionId past := by
  intro settles
  rcases update_assigned staged with ⟨rfl, same⟩ | ⟨different, staged⟩
  · have idle (other : ∀ saved entry, event.effect ≠ .saveAction saved entry) : past ∈ history := by
      rcases List.mem_cons.mp member with rfl | member
      · obtain ⟨_, _, _, _, _, _, _, _, rfl⟩ := settles_holding acts settles
        exact absurd rfl (other _ _)
      · exact member
    rcases holding_after acts.permitted same.symm with ⟨_, rfl⟩ | ⟨before, rfl, ⟨rfl, _, survives⟩ | ⟨permitted, rfl⟩⟩
    · cases works
    · have member := idle fun _ _ saves => by cases survives.symm.trans saves
      exact rivalry.unsettled other request attempt action acts.assigned works past member settler settles
    · obtain ⟨worked | ⟨read, requested⟩, unsaved⟩ := existing_after permitted works
      · exact rivalry.unsettled other request before action acts.assigned worked past (idle unsaved) settler settles
      · have served := acts.served
        rw [show event = ⟨.get request.actionId, .ok (some action)⟩ from read] at served
        obtain ⟨stored, found, rfl⟩ := served_get served
        obtain ⟨row, present, status⟩ := rivalry.settled past (idle unsaved) settler _ settles
        rw [readBy_actionId, get_id found, found] at present
        cases present
        exact status requested
  · have asked := works_asked acts.run staged works
    rcases List.mem_cons.mp member with rfl | member
    · obtain ⟨_, request', attempt', holding, same, _⟩ := settles_holding acts settles
      exact different (same_lock acts staged holding (asked.symm.trans same.symm))
    · exact rivalry.unsettled other request attempt action staged works past member settler settles

theorem Rivalry.starters_step (past : GovernanceEntry) (member : past ∈ ⟨pool, .perform pid event, next⟩ :: history)
    (other : Nat) (actionId : String) (starts : Starts other actionId past) :
    update (stagesOf config history) pid (some (stage.after event.effect event.answer)) other = some .closed ∨
      ∃ request attempt, update (stagesOf config history) pid (some (stage.after event.effect event.answer)) other =
        some (.holding request attempt) ∧ request.actionId = actionId ∧ attempt.Spent := by
  rcases List.mem_cons.mp member with rfl | old
  · obtain ⟨rfl, request, action, now, executorWallet, result, rfl, same, _, rfl⟩ := starts_holding acts starts
    exact .inr ⟨request, .sent action now executorWallet result, update_self .., same, trivial⟩
  · by_cases self : other = pid
    · subst self
      rw [update_self]
      rcases rivalry.starters past old other actionId starts with closed | ⟨request, attempt, staged, same, spent⟩
      · cases acts.assigned.symm.trans closed
        cases acts.permitted
      · cases acts.assigned.symm.trans staged
        obtain ⟨effect, answer⟩ := event
        have permitted := acts.permitted
        cases effect with
        | survive actionId =>
          change some (if answer = true then GovernanceStage.holding request attempt else .closed) = _ ∨ ∃ _ _,
            some (if answer = true then GovernanceStage.holding request attempt else .closed) = _ ∧ _
          split
          · exact .inr ⟨request, attempt, rfl, same, spent⟩
          · exact .inl rfl
        | unlock => exact .inl rfl
        | _ => exact .inr ⟨request, _, rfl, same, spent.after permitted answer⟩
    · rw [update_of_ne self]
      exact rivalry.starters past old other actionId starts

end Step

private theorem Rivalry.idle (rivalry : Rivalry config history pool) (same : next.world = pool.world)
    (quiet : ∀ pid event, move ≠ .perform pid event)
    (stages : ∀ pid stage, stagesOf config (⟨pool, move, next⟩ :: history) pid = some stage →
      (∃ call, stage = GovernanceCall.enter call) ∨ stagesOf config history pid = some stage)
    (kept : ∀ pid stage, stagesOf config history pid = some stage →
      stagesOf config (⟨pool, move, next⟩ :: history) pid = some stage) :
    Rivalry config (⟨pool, move, next⟩ :: history) next := by
  have unmade {pid : Nat} {event : Event GovernanceEffect GovernanceAnswer}
      (made : Made (⟨pool, move, next⟩ :: history) pid event) : Made history pid event :=
    (made_cons.mp made).resolve_left (quiet pid event)
  have unstarted {past : GovernanceEntry} (member : past ∈ (⟨pool, move, next⟩ : GovernanceEntry) :: history)
      (called : ∃ pid event, past.label = .perform pid event) : past ∈ history := by
    rcases List.mem_cons.mp member with rfl | member
    · obtain ⟨pid, event, label⟩ := called
      exact absurd label (quiet pid event)
    · exact member
  refine ⟨?_, ?_, ?_, ?_, ?_, ?_⟩
  · exact fun pid other uuid drawn drawn' => rivalry.drawn pid other uuid (unmade drawn) (unmade drawn')
  · intro actionId row present
    rw [same] at present
    obtain ⟨pid, input, drawn, answering⟩ := rivalry.claims actionId row present
    exact ⟨pid, input, drawn.later _, kept pid _ answering⟩
  · intro pid stage action staged works
    rw [same]
    rcases stages pid stage staged with ⟨call, rfl⟩ | staged
    · cases call with
      | queue | execute => cases works
      | clean time | preview time => cases time <;> cases works
    · exact rivalry.present pid stage action staged works
  · intro past member pid actionId settles
    rw [same]
    have called : ∃ pid event, past.label = .perform pid event := by
      obtain ⟨_, _, _, label, _⟩ := settles
      exact ⟨_, _, label⟩
    exact rivalry.settled past (unstarted member called) pid actionId settles
  · intro pid request attempt action staged works past member other settles
    have called : ∃ pid event, past.label = .perform pid event := by
      obtain ⟨_, _, _, label, _⟩ := settles
      exact ⟨_, _, label⟩
    rcases stages pid _ staged with ⟨call, entered⟩ | staged
    · cases call with
      | queue | execute => cases entered
      | clean time | preview time => cases time <;> cases entered
    · exact rivalry.unsettled pid request attempt action staged works past (unstarted member called) other settles
  · intro past member pid actionId starts
    have called : ∃ pid event, past.label = .perform pid event := by
      obtain ⟨_, _, label, _⟩ := starts
      exact ⟨_, _, label⟩
    rcases rivalry.starters past (unstarted member called) pid actionId starts with closed | ⟨request, attempt, staged, rest⟩
    · exact .inl (kept pid _ closed)
    · exact .inr ⟨request, attempt, kept pid _ staged, rest⟩

theorem run_rivalry (run : (governanceServer hashtext utc config).system.Run history pool)
    (fresh : Throughout FreshIds history) : Rivalry config history pool := by
  apply Server.run_kept governance_follows ?_ ?_ ?_ ?_ run fresh
  · rintro origin ⟨⟨empty, _, _⟩, _⟩
    have none (actionId : String) : origin.world.get actionId = none := by
      unfold GovernanceTables.get
      rw [empty]
      rfl
    refine ⟨?_, ?_, ?_, ?_, ?_, ?_⟩
    · rintro _ _ _ ⟨_, member, _⟩
      cases member
    · intro actionId row present
      cases (none actionId).symm.trans present
    · intro _ _ _ staged
      cases staged
    · intro _ member
      cases member
    · intro _ _ _ _ staged
      cases staged
    · intro _ member
      cases member
  · intro history pool pid call next _ _ absent taken rivalry
    refine rivalry.idle (Server.started taken).1 (fun _ _ label => by cases label) ?_ ?_
    · intro other stage staged
      rw [stagesOf, casting_start] at staged
      rcases update_assigned staged with ⟨_, rfl⟩ | ⟨_, staged⟩
      · exact .inl ⟨call, rfl⟩
      · exact .inr staged
    · intro other stage staged
      rw [stagesOf, casting_start, update_of_ne]
      · exact staged
      · rintro rfl
        cases absent.symm.trans staged
  · intro history pool pid event stage next acts granted rivalry
    have casting := casting_acts acts
    refine ⟨?_, ?_, ?_, ?_, ?_, ?_⟩
    · intro first second uuid drawn drawn'
      rcases made_cons.mp drawn with label | drawn
      · rcases made_cons.mp drawn' with label' | drawn'
        · cases label.symm.trans label'
          rfl
        · exact absurd drawn' (granted first uuid label second)
      · rcases made_cons.mp drawn' with label' | drawn'
        · exact absurd drawn (granted second uuid label' first)
        · exact rivalry.drawn first second uuid drawn drawn'
    · rw [casting]
      exact rivalry.claims_step acts
    · rw [casting]
      exact rivalry.present_step acts
    · exact rivalry.settled_step acts
    · rw [casting]
      exact rivalry.unsettled_step acts
    · rw [casting]
      exact rivalry.starters_step acts
  · intro history pool next _ _ taken rivalry
    exact rivalry.idle taken.1 (fun _ _ label => by cases label) (fun _ _ staged => .inr staged)
      (fun _ _ staged => staged)

private theorem closed_not_live (run : (governanceServer hashtext utc config).system.Run history pool)
    (closed : stagesOf config history pid = some .closed) : ¬ pool.Live pid :=
  Cast.not_live (Server.run_casting governance_follows run) closed fun _ permitted => permitted

/-- Who starts an action or settles it as an executor works on it under its lock. -/
theorem working {entry : GovernanceEntry} (before : (governanceServer hashtext utc config).system.Run history entry.before)
    (taken : (governanceServer hashtext utc config).system.step entry.before entry.label entry.after)
    (works : Starts pid actionId entry ∨ Settles pid actionId entry) :
    ∃ request attempt existing, stagesOf config history pid = some (.holding request attempt) ∧
      attempt.existing = some existing ∧ existing.actionId = actionId ∧
        (Starts pid actionId entry → ¬ attempt.Spent) := by
  obtain ⟨origin, move, final⟩ := entry
  rcases works with ⟨action, result, label, same⟩ | ⟨action, auditEntry, answer, label, method, same, _⟩
  · cases label
    obtain ⟨stage, acts⟩ := Server.acts governance_follows before taken
    obtain ⟨request, now, executorWallet, rfl⟩ := execute_started acts.permitted
    exact ⟨request, _, action, acts.assigned, rfl, same, fun _ spent => spent⟩
  · cases label
    obtain ⟨stage, acts⟩ := Server.acts governance_follows before taken
    obtain ⟨request, attempt, existing, rfl, works, saved⟩ := save_holding acts.permitted method
    refine ⟨request, attempt, existing, acts.assigned, works, saved.symm.trans same, ?_⟩
    rintro ⟨_, _, label, _⟩
    cases label

/-- Executors of one action never work on it together, none of them starts it or stores its outcome once one
of them has stored an outcome, and of those that have started it one that starts it again is the only one
left. -/
theorem executions_unrivalled (run : (governanceServer hashtext utc config).system.Run history pool)
    (fresh : Throughout FreshIds history) : Throughout Unrivalled history := by
  intro later entry earlier same pid actionId works past member other
  subst same
  obtain ⟨before, taken, _⟩ := run.split
  have rivalry := run_rivalry before fresh.before.cons.2
  obtain ⟨request, attempt, existing, staged, works, same, unspent⟩ := working before taken works
  refine ⟨?_, fun sent rival => ?_⟩
  · rw [← same]
    exact rivalry.unsettled pid request attempt existing staged works past member other
  · rcases rivalry.starters past member other actionId sent with closed | ⟨request', attempt', staged', asked, spent⟩
    · exact closed_not_live before closed
    · have lock : request'.actionId = request.actionId := by
        rw [asked, ← works_asked before staged works, same]
      have self : other = pid := (run_locks before).alone other pid _ _ (hashtext request.actionId) staged'
        (by rw [lockOf, lock]) staged rfl
      subst self
      cases staged.symm.trans staged'
      rcases rival with starts | different
      · exact absurd spent (unspent starts)
      · exact absurd rfl different

end Rivals

section Scenarios

/-- The id that a step draws. -/
def drawnBy (entry : GovernanceEntry) : Option String :=
  match entry.label with
  | .perform _ ⟨.randomUUID, uuid⟩ => some uuid
  | _ => none

def freshDraw (earlier : GovernanceHistory) (entry : GovernanceEntry) : Bool :=
  (drawnBy entry).all fun uuid => earlier.all fun past => drawnBy past != some uuid

theorem fresh_of_freshDraw {earlier : GovernanceHistory} {entry : GovernanceEntry}
    (passed : freshDraw earlier entry = true) : FreshIds earlier entry := by
  rintro pid uuid label other ⟨past, member, label'⟩
  have drawn : drawnBy entry = some uuid := by
    rw [drawnBy, label]
  have drawn' : drawnBy past = some uuid := by
    rw [drawnBy, label']
  unfold freshDraw at passed
  rw [drawn, Option.all_some, List.all_eq_true] at passed
  have different := passed past member
  rw [drawn'] at different
  simp at different

/-- The first executor dies once it has started the action. -/
def dyingAt (moment time : Nat) : GovernanceChoice :=
  { executing (minedAt 7) time with survives := time != moment }

/-- An action that is started again, after its first executor has died. -/
theorem restarted_unrivalled :
    ∃ (history : GovernanceHistory) (pool : GovernancePool) (entry past : GovernanceEntry) (earlier : GovernanceHistory),
      (governanceServer (fun _ => 0) id queueConfig).system.Run history pool ∧ entry ∈ history ∧ past ∈ earlier ∧
        Starts 2 "action-1" entry ∧ Starts 1 "action-1" past ∧ ¬ entry.before.Live 1 ∧ ¬ Settles 1 "action-1" past := by
  obtain ⟨recording, run, checked⟩ := (governanceServer (fun _ => 0) id queueConfig).record_run
    (governanceServing (fun _ => 0) id) (dyingAt 17) noActions
    (approvalCues 12 ++ [.start 2 (.execute ⟨"action-1", "executor-2", none⟩), .go 2 11])
    (fun recording => checkEach freshDraw recording.history &&
      checkSome (fun earlier entry => (startedBy entry).any (fun sent => sent.1 = 2 && sent.2.actionId = "action-1") &&
        earlier.any fun past => (startedBy past).any fun sent => sent.1 = 1 && sent.2.actionId = "action-1")
        recording.history)
    rfl ⟨rfl, rfl, fun _ => rfl⟩ (by decide +kernel)
  rw [Bool.and_eq_true] at checked
  obtain ⟨fresh, again⟩ := checked
  have starts {pid : Nat} {entry : GovernanceEntry}
      (sent : (startedBy entry).any (fun sent => sent.1 = pid && sent.2.actionId = "action-1") = true) :
      Starts pid "action-1" entry := by
    obtain ⟨⟨sender, action⟩, sending, named⟩ := (Option.any_eq_true _ _).mp sent
    simp only [Bool.and_eq_true, decide_eq_true_eq] at named
    obtain ⟨rfl, same⟩ := named
    obtain ⟨result, label⟩ := started_of_startedBy sending
    exact ⟨action, result, label, same⟩
  obtain ⟨later, entry, earlier, same, met⟩ := sometime_of_checkSome (fun _ _ met => met) again
  rw [Bool.and_eq_true] at met
  obtain ⟨second, others⟩ := met
  obtain ⟨past, member, first⟩ := List.any_eq_true.mp others
  have unrivalled := executions_unrivalled run (throughout_of_checkEach (fun _ _ => fresh_of_freshDraw) fresh)
    later entry earlier same 2 "action-1" (.inl (starts second)) past member 1
  exact ⟨recording.history, recording.pool, entry, past, earlier, run, by simp [same], member, starts second, starts first,
    unrivalled.2 (starts first) (.inl (starts second)), unrivalled.1⟩

end Scenarios

end Agroasys.Gateway
