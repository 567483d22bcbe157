import Agroasys.Gateway.GovernanceStages

namespace Agroasys.Gateway

open Function Agroasys.Foundation

section Table

variable {world : GovernanceTables} {action row : GovernanceAction} {entry : GovernanceAuditEntry}

private theorem mem_upsertAction {actions : List GovernanceAction} :
    row ∈ upsertAction action actions ↔ row = action ∨ (row ∈ actions ∧ row.actionId ≠ action.actionId) := by
  unfold upsertAction
  split
  · rename_i known
    obtain ⟨old, member, same⟩ := List.any_eq_true.mp known
    rw [List.mem_map]
    constructor
    · rintro ⟨other, among, rfl⟩
      split
      · exact .inl rfl
      · rename_i different
        exact .inr ⟨among, different⟩
    · rintro (rfl | ⟨among, different⟩)
      · exact ⟨old, member, if_pos (of_decide_eq_true same)⟩
      · exact ⟨row, among, if_neg different⟩
  · rename_i unknown
    rw [List.mem_cons]
    refine or_congr_right ⟨fun among => ⟨among, fun same => unknown ?_⟩, And.left⟩
    exact List.any_eq_true.mpr ⟨row, among, decide_eq_true same⟩

theorem mem_save : row ∈ (world.save action entry).actions ↔
    row = action ∨ (row ∈ world.actions ∧ row.actionId ≠ action.actionId) :=
  mem_upsertAction

private theorem find_upsertAction (actions : List GovernanceAction) :
    (upsertAction action actions).find? (·.actionId = actionId) =
      if actionId = action.actionId then some action else actions.find? (·.actionId = actionId) := by
  unfold upsertAction
  split
  · rename_i known
    induction actions with
    | nil => simp at known
    | cons head rest ih =>
      rw [List.map_cons, List.find?_cons, List.find?_cons]
      by_cases here : head.actionId = action.actionId
      · by_cases asked : actionId = action.actionId
        · simp [here, asked]
        · have other : ¬ action.actionId = actionId := fun same => asked same.symm
          by_cases further : rest.any (·.actionId = action.actionId) = true
          · have later := ih further
            simp only [asked, if_false] at later
            simp [here, asked, other, later]
          · have rest_same : rest.map (fun row => if row.actionId = action.actionId then action else row) = rest := by
              refine (List.map_congr_left fun row member => if_neg fun same => further ?_).trans (List.map_id _)
              exact List.any_eq_true.mpr ⟨row, member, decide_eq_true same⟩
            simp [here, asked, other, rest_same]
      · have further : rest.any (·.actionId = action.actionId) = true := by
          simpa [here] using known
        have later := ih further
        by_cases asked : head.actionId = actionId
        · have other : ¬ actionId = action.actionId := fun same => here (asked.trans same)
          simp [asked, other]
        · simp [here, asked, later]
  · rename_i unknown
    rw [List.find?_cons]
    by_cases asked : actionId = action.actionId
    · simp [asked]
    · have other : ¬ action.actionId = actionId := fun same => asked same.symm
      simp [asked, other]

theorem get_save : (world.save action entry).get actionId =
    if actionId = action.actionId then some action else world.get actionId :=
  find_upsertAction world.actions

theorem get_id (found : world.get actionId = some row) : row.actionId = actionId :=
  of_decide_eq_true
    (List.find?_some (p := fun other : GovernanceAction => decide (other.actionId = actionId)) found)

theorem get_mem (found : world.get actionId = some row) : row ∈ world.actions :=
  List.mem_of_find?_eq_some found

theorem get_of_mem (member : row ∈ world.actions) : ∃ found, world.get row.actionId = some found :=
  Option.isSome_iff_exists.mp (List.find?_isSome.mpr ⟨row, member, decide_eq_true rfl⟩)

theorem newestAction_mem {actions : List GovernanceAction} (newest : newestAction actions = some row) :
    row ∈ actions := by
  induction actions with
  | nil => cases newest
  | cons head rest ih =>
    unfold newestAction at newest
    split at newest
    · rename_i later
      split at newest
      · exact List.mem_cons_of_mem _ (ih (later.trans newest))
      · cases newest
        exact List.mem_cons_self
    · cases newest
      exact List.mem_cons_self

end Table

section Changes

variable {hashtext : String → Int} {utc : Int → Int} {before after : GovernanceTables}

/-- What a call can change. -/
inductive Changes (hashtext : String → Int) (before : GovernanceTables) :
    Event GovernanceEffect GovernanceAnswer → GovernanceTables → Prop where
  | nothing (event : Event GovernanceEffect GovernanceAnswer) (unlocked : ∀ actionId, event ≠ ⟨.lock actionId, .ok ()⟩)
      (kept : ∀ actionId, event ≠ ⟨.survive actionId, false⟩) : Changes hashtext before event before
  | locked (free : before.locked (hashtext actionId) = false) :
      Changes hashtext before ⟨.lock actionId, .ok ()⟩
        { before with locked := update before.locked (hashtext actionId) true }
  | unlocked (answer : Except Failure Unit) :
      Changes hashtext before ⟨.unlock actionId, answer⟩ (before.release hashtext actionId)
  | died : Changes hashtext before ⟨.survive actionId, false⟩ (before.release hashtext actionId)
  | claimed (answer : Except Failure (Option String))
      (none : before.findOpenByIntentKey action.intentKey now = none) :
      Changes hashtext before ⟨.claim action entry now, answer⟩ (before.save action entry)
  | saved (answer : Except Failure Unit) :
      Changes hashtext before ⟨.saveAction action entry, answer⟩ (before.save action entry)
  | appended (answer : Except Failure Unit) :
      Changes hashtext before ⟨.appendAudit entry, answer⟩ (before.append entry)

private theorem executed_changes {Value : Type} {fate : Fate} {value : Value} {done : GovernanceTables}
    {answer : Except Failure Value} (executed : fate.execute connectionLost (.ok (value, done)) before = (answer, after)) :
    after = done ∨ after = before := by
  rcases Fate.executed executed with ⟨_, same, _⟩ | ⟨same, _⟩
  · cases same
    exact .inl rfl
  · exact .inr same

theorem served_changes {event : Event GovernanceEffect GovernanceAnswer}
    (served : (governanceServing hashtext utc).serves before event after) : Changes hashtext before event after := by
  obtain ⟨choice, served⟩ := served
  obtain ⟨effect, answer⟩ := event
  have idle (same : after = before) (unlocked : ∀ actionId, effect ≠ .lock actionId)
      (kept : ∀ actionId, effect ≠ .survive actionId) : Changes hashtext before ⟨effect, answer⟩ after := by
    rw [same]
    refine .nothing _ (fun actionId label => ?_) fun actionId label => ?_
    · exact unlocked actionId (congrArg Event.effect label)
    · exact kept actionId (congrArg Event.effect label)
  cases effect with
  | lock actionId =>
    change GovernanceTables.lock hashtext before choice.fate actionId = _ at served
    unfold GovernanceTables.lock at served
    split at served
    · rename_i granted
      cases served
      exact .locked granted.2
    · cases served
      exact .nothing _ (fun _ label => by cases label) fun _ label => by cases label
  | unlock actionId =>
    rcases executed_changes served with rfl | rfl
    · exact .unlocked answer
    · exact idle rfl (fun _ label => by cases label) fun _ label => by cases label
  | survive actionId =>
    change (choice.survives, if choice.survives = true then before else before.release hashtext actionId) = _ at served
    cases alive : choice.survives with
    | true =>
      rw [alive] at served
      cases served
      exact .nothing _ (fun _ label => by cases label) fun _ label => by cases label
    | false =>
      rw [alive] at served
      cases served
      exact .died
  | claim action entry now =>
    change Fate.execute _ _ (.ok (before.claim action entry now)) _ = _ at served
    unfold GovernanceTables.claim at served
    cases found : before.findOpenByIntentKey action.intentKey now with
    | some existing =>
      rw [found] at served
      rcases executed_changes served with rfl | rfl <;>
        exact idle rfl (fun _ label => by cases label) fun _ label => by cases label
    | none =>
      rw [found] at served
      rcases executed_changes served with rfl | rfl
      · exact .claimed answer found
      · exact idle rfl (fun _ label => by cases label) fun _ label => by cases label
  | saveAction action entry =>
    rcases executed_changes served with rfl | rfl
    · exact .saved answer
    · exact idle rfl (fun _ label => by cases label) fun _ label => by cases label
  | appendAudit entry =>
    rcases executed_changes served with rfl | rfl
    · exact .appended answer
    · exact idle rfl (fun _ label => by cases label) fun _ label => by cases label
  | get | listRequestedExpired =>
    exact idle (Fate.executed_read served).1 (fun _ label => by cases label) fun _ label => by cases label
  | _ =>
    exact idle (congrArg Prod.snd served).symm (fun _ label => by cases label) fun _ label => by cases label

/-- An action that is read is there. -/
theorem served_get (served : (governanceServing hashtext utc).serves before ⟨.get actionId, .ok (some row)⟩ after) :
    ∃ stored, before.get actionId = some stored ∧ row = stored.readBy utc := by
  obtain ⟨choice, served⟩ := served
  rcases (Fate.executed_read served).2 with same | lost
  · obtain ⟨stored, found, read⟩ := Option.map_eq_some_iff.mp (Except.ok.inj same).symm
    exact ⟨stored, found, read.symm⟩
  · cases lost

end Changes

section Backed

/-- The action was there, and requested. -/
structure Found (made : Event GovernanceEffect GovernanceAnswer → Prop) (request : ExecutorRequest)
    (existing : GovernanceAction) : Prop where
  read : made ⟨.get request.actionId, .ok (some existing)⟩
  requested : existing.status = .requested

/-- It was not expired by the clock. -/
structure Checked (made : Event GovernanceEffect GovernanceAnswer → Prop) (request : ExecutorRequest)
    (existing : GovernanceAction) (now : Int) : Prop extends Found made request existing where
  clock : made ⟨.now, now⟩
  unexpired : isExpiredRequestedGovernanceAction existing now = false

/-- The wallet that is to sign is known. -/
structure Signed (made : Event GovernanceEffect GovernanceAnswer → Prop) (request : ExecutorRequest)
    (existing : GovernanceAction) (now : Int) (executorWallet : String) : Prop
    extends Checked made request existing now where
  signer : made ⟨.getSignerAddress, .ok executorWallet⟩

/-- The wallet may sign, and the log says that the execution starts. -/
structure Started (made : Event GovernanceEffect GovernanceAnswer → Prop) (request : ExecutorRequest)
    (existing : GovernanceAction) (now : Int) (executorWallet : String) : Prop
    extends Signed made request existing now executorWallet where
  signed : existing.SignedBy executorWallet
  announced : made ⟨.appendAudit (request.startedEntry existing executorWallet), .ok ()⟩

/-- What an executor has done to be where it is. -/
def Attempt.Backed (made : Event GovernanceEffect GovernanceAnswer → Prop) (request : ExecutorRequest) : Attempt → Prop
  | .entered | .left => True
  | .found existing => Found made request existing
  | .overdue existing now =>
    Found made request existing ∧ made ⟨.now, now⟩ ∧ isExpiredRequestedGovernanceAction existing now = true
  | .checked existing now => Checked made request existing now
  | .unsigned existing failure => Found made request existing ∧ made ⟨.getSignerAddress, .error failure⟩
  | .signed existing now executorWallet => Signed made request existing now executorWallet
  | .started existing now executorWallet => Started made request existing now executorWallet
  | .sent existing now executorWallet result =>
    Started made request existing now executorWallet ∧ made ⟨.execute existing, result⟩

variable {made more : Event GovernanceEffect GovernanceAnswer → Prop} {request : ExecutorRequest}
  {existing : GovernanceAction} {attempt : Attempt}

theorem Found.mono (found : Found made request existing) (kept : ∀ event, made event → more event) :
    Found more request existing :=
  ⟨kept _ found.read, found.requested⟩

theorem Checked.mono (checked : Checked made request existing now) (kept : ∀ event, made event → more event) :
    Checked more request existing now :=
  ⟨checked.toFound.mono kept, kept _ checked.clock, checked.unexpired⟩

theorem Signed.mono (signed : Signed made request existing now executorWallet)
    (kept : ∀ event, made event → more event) : Signed more request existing now executorWallet :=
  ⟨signed.toChecked.mono kept, kept _ signed.signer⟩

private theorem Started.mono (started : Started made request existing now executorWallet)
    (kept : ∀ event, made event → more event) : Started more request existing now executorWallet :=
  ⟨started.toSigned.mono kept, started.signed, kept _ started.announced⟩

private theorem Attempt.Backed.mono (backed : attempt.Backed made request) (kept : ∀ event, made event → more event) :
    attempt.Backed more request := by
  cases attempt with
  | entered | left => exact trivial
  | found => exact Found.mono backed kept
  | overdue => exact ⟨backed.1.mono kept, kept _ backed.2.1, backed.2.2⟩
  | checked => exact Checked.mono backed kept
  | unsigned => exact ⟨backed.1.mono kept, kept _ backed.2⟩
  | signed => exact Signed.mono backed kept
  | started => exact Started.mono backed kept
  | sent => exact ⟨backed.1.mono kept, kept _ backed.2⟩

/-- A permitted call backs the stage after it. -/
theorem Attempt.Backed.step {answer : GovernanceAnswer effect} (backed : attempt.Backed made request)
    (permitted : attempt.permits request effect) (kept : ∀ event, made event → more event)
    (last : more ⟨effect, answer⟩) : (attempt.after request effect answer).Backed more request := by
  cases attempt with
  | entered =>
    cases effect with
    | get actionId =>
      cases permitted
      cases answer with
      | error => exact trivial
      | ok row =>
        cases row with
        | none => exact trivial
        | some existing =>
          change (if existing.status = .requested then Attempt.found existing else .left).Backed more request
          split
          · rename_i requested
            exact ⟨last, requested⟩
          · exact trivial
    | _ => cases permitted
  | found existing =>
    cases effect with
    | now =>
      change (if isExpiredRequestedGovernanceAction existing answer then Attempt.overdue existing answer
        else .checked existing answer).Backed more request
      split
      · rename_i expired
        exact ⟨Found.mono backed kept, last, expired⟩
      · rename_i live
        exact ⟨Found.mono backed kept, last, Bool.eq_false_of_not_eq_true live⟩
    | _ => cases permitted
  | overdue existing now =>
    cases effect with
    | now => exact ⟨backed.1.mono kept, kept _ backed.2.1, backed.2.2⟩
    | saveAction => exact trivial
    | _ => cases permitted
  | checked existing now =>
    cases effect with
    | getSignerAddress =>
      cases answer with
      | error failure => exact ⟨(Checked.toFound backed).mono kept, last⟩
      | ok executorWallet => exact ⟨Checked.mono backed kept, last⟩
    | _ => cases permitted
  | unsigned existing failure =>
    cases effect with
    | now => exact ⟨backed.1.mono kept, kept _ backed.2⟩
    | saveAction => exact trivial
    | _ => cases permitted
  | signed existing now executorWallet =>
    cases effect with
    | appendAudit entry =>
      cases answer with
      | error => exact trivial
      | ok =>
        change (if entry = request.startedEntry existing executorWallet then
          Attempt.started existing now executorWallet else .left).Backed more request
        split
        · rename_i same
          subst same
          rcases permitted with ⟨_, signed⟩ | rejected
          · exact ⟨Signed.mono backed kept, signed, last⟩
          · exact absurd (congrArg GovernanceAuditEntry.eventType rejected)
              (by simp [ExecutorRequest.startedEntry, ExecutorRequest.rejectedEntry, ExecutorRequest.entry])
        · exact trivial
    | _ => cases permitted
  | started existing now executorWallet =>
    cases effect with
    | execute action =>
      cases permitted
      exact ⟨Started.mono backed kept, last⟩
    | _ => cases permitted
  | sent existing now executorWallet result =>
    cases effect with
    | saveAction => exact trivial
    | now | getGovernanceStatus | getUnpauseProposalState | getTreasuryPayoutReceiverProposalState
    | getOracleProposalState => exact ⟨backed.1.mono kept, kept _ backed.2⟩
    | _ => cases permitted
  | left =>
    cases effect with
    | get => exact trivial
    | _ => cases permitted

/-- The time that a cleanup works with. -/
def Dated (call : GovernanceCall) (made : Event GovernanceEffect GovernanceAnswer → Prop) (now : Int) : Prop :=
  (∃ limit, call = .clean (some now) limit ∨ call = .preview (some now) limit) ∨ made ⟨.now, now⟩

/-- What a program was started for, and has done to be where it is. -/
def GovernanceStage.Backed (call : GovernanceCall) (made : Event GovernanceEffect GovernanceAnswer → Prop) :
    GovernanceStage → Prop
  | .queueing input | .answering input => call = .queue input
  | .dated input acceptedAt => call = .queue input ∧ made ⟨.now, acceptedAt⟩
  | .drafted input acceptedAt actionId =>
    call = .queue input ∧ made ⟨.now, acceptedAt⟩ ∧ made ⟨.randomUUID, actionId⟩
  | .waiting request => call = .execute request
  | .holding request attempt =>
    call = .execute request ∧ made ⟨.lock request.actionId, .ok ()⟩ ∧ attempt.Backed made request
  | .sweeping now | .condemned now => Dated call made now
  | .condemning now current => Dated call made now ∧ isExpiredRequestedGovernanceAction current now = true ∧
      ∃ actionId, made ⟨.get actionId, .ok (some current)⟩
  | .inspecting | .closed => True

theorem Dated.mono {call : GovernanceCall} (dated : Dated call made now) (kept : ∀ event, made event → more event) :
    Dated call more now :=
  dated.imp_right (kept _)

variable {call : GovernanceCall} {stage : GovernanceStage}

theorem GovernanceStage.Backed.mono (backed : stage.Backed call made) (kept : ∀ event, made event → more event) :
    stage.Backed call more := by
  cases stage with
  | queueing | answering | waiting => exact backed
  | dated => exact ⟨backed.1, kept _ backed.2⟩
  | drafted => exact ⟨backed.1, kept _ backed.2.1, kept _ backed.2.2⟩
  | holding => exact ⟨backed.1, kept _ backed.2.1, Attempt.Backed.mono backed.2.2 kept⟩
  | sweeping | condemned => exact Dated.mono backed kept
  | condemning =>
    obtain ⟨dated, expired, actionId, read⟩ := backed
    exact ⟨dated.mono kept, expired, actionId, kept _ read⟩
  | inspecting | closed => exact trivial

private theorem backed_enter (call : GovernanceCall) : call.enter.Backed call made := by
  cases call with
  | queue | execute => exact rfl
  | clean time limit =>
    cases time with
    | none => exact trivial
    | some now => exact .inl ⟨limit, .inl rfl⟩
  | preview time limit =>
    cases time with
    | none => exact trivial
    | some now => exact .inl ⟨limit, .inr rfl⟩

private theorem GovernanceStage.Backed.step {answer : GovernanceAnswer effect} (backed : stage.Backed call made)
    (permitted : stage.permits config effect) (kept : ∀ event, made event → more event)
    (last : more ⟨effect, answer⟩) : (stage.after effect answer).Backed call more := by
  cases stage with
  | queueing input =>
    cases effect with
    | now => exact ⟨backed, last⟩
    | _ => cases permitted
  | dated input acceptedAt =>
    cases effect with
    | randomUUID => exact ⟨backed.1, kept _ backed.2, last⟩
    | _ => cases permitted
  | drafted input acceptedAt actionId =>
    cases effect with
    | claim => exact backed.1
    | _ => cases permitted
  | answering input =>
    cases effect with
    | get | appendAudit => exact backed
    | _ => cases permitted
  | waiting request =>
    cases effect with
    | lock =>
      cases answer with
      | ok =>
        cases permitted
        exact ⟨backed, last, trivial⟩
      | error => exact trivial
    | _ => cases permitted
  | holding request attempt =>
    cases effect with
    | survive =>
      change (if answer = true then GovernanceStage.holding request attempt else .closed).Backed call more
      split
      · have held : (GovernanceStage.holding request attempt).Backed call made := backed
        exact held.mono kept
      · exact trivial
    | unlock => exact trivial
    | _ => exact ⟨backed.1, kept _ backed.2.1, Attempt.Backed.step backed.2.2 permitted kept last⟩
  | inspecting =>
    cases effect with
    | now => exact .inr last
    | _ => cases permitted
  | sweeping now =>
    cases effect with
    | randomUUID | listRequestedExpired => exact Dated.mono backed kept
    | get actionId =>
      cases answer with
      | error => exact Dated.mono backed kept
      | ok row =>
        cases row with
        | none => exact Dated.mono backed kept
        | some current =>
          change (if isExpiredRequestedGovernanceAction current now then GovernanceStage.condemning now current
            else .sweeping now).Backed call more
          split
          · rename_i expired
            exact ⟨Dated.mono backed kept, expired, actionId, last⟩
          · exact Dated.mono backed kept
    | _ => cases permitted
  | condemning now current =>
    cases effect with
    | saveAction => exact backed.1.mono kept
    | _ => cases permitted
  | condemned now =>
    cases effect with
    | get => exact Dated.mono backed kept
    | _ => cases permitted
  | closed => cases permitted

private theorem traced_backed (traced : (governanceStages config).Traced call.enter events stage) :
    stage.Backed call (· ∈ events) := by
  generalize origin : call.enter = entered at traced
  induction traced with
  | start => exact origin ▸ backed_enter call
  | next earlier permitted ih =>
    exact ih.step permitted (fun _ member => List.mem_cons_of_mem _ member) List.mem_cons_self

variable {history : GovernanceHistory} {pool : GovernancePool} {hashtext : String → Int} {utc : Int → Int}
  {config : GovernanceQueueConfig}

/-- The stages that a history leaves its programs in. -/
abbrev stagesOf (config : GovernanceQueueConfig) (history : GovernanceHistory) : Nat → Option GovernanceStage :=
  casting (governanceStages config) GovernanceCall.enter history

/-- Every stage is backed by what its program has done. -/
theorem stage_backed (run : (governanceServer hashtext utc config).system.Run history pool)
    (staged : stagesOf config history pid = some stage) :
    ∃ call, Began history pid call ∧ stage.Backed call (Made history pid) := by
  obtain ⟨call, began, traced⟩ := Server.casting_traced governance_follows run staged
  exact ⟨call, began, (traced_backed traced).mono fun _ member => made_iff.mpr member⟩

end Backed

end Agroasys.Gateway
