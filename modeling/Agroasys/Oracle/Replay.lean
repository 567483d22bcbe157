import Agroasys.Oracle.Bench
import Mathlib.Data.Set.Finite.Basic

namespace Agroasys.Oracle

open Function Agroasys.Foundation

/-- Some row is the latest, or there is none. -/
theorem latest_exists (table : Table) (actionKey : String) : ∃ latest, table.Latest actionKey latest := by
  have newest (rows : List Trigger) : (∀ row ∈ rows, row.actionKey ≠ actionKey) ∨
      ∃ latest ∈ rows, latest.actionKey = actionKey ∧
        ∀ row ∈ rows, row.actionKey = actionKey → row.createdAt ≤ latest.createdAt := by
    induction rows with
    | nil => simp
    | cons head rest ih =>
      grind
  rcases newest table.rows with absent | ⟨latest, newest⟩
  · exact ⟨none, absent⟩
  · exact ⟨some latest, newest⟩

/-- A random part gives a key that no row has. -/
theorem fresh_exists (table : Table) (actionKey : String) :
    ∃ random, table.lookup (generateIdempotencyKey actionKey random) = none := by
  have distinct : Injective fun count => generateIdempotencyKey actionKey (.ofList (.replicate count '0')) := by
    intro one two same
    have lengths := congrArg String.length same
    simpa [generateIdempotencyKey, String.length_append, toString] using lengths
  obtain ⟨_, ⟨count, rfl⟩, absent⟩ := (Set.infinite_range_of_injective distinct).exists_notMem_finset
    (table.rows.map Trigger.idempotencyKey).toFinset
  refine ⟨.ofList (.replicate count '0'), Option.eq_none_iff_forall_ne_some.mpr ?_⟩
  intro row found
  obtain ⟨member, keyed⟩ := Table.lookup_eq_some found
  apply absent
  rw [List.mem_toFinset]
  exact List.mem_map.mpr ⟨row, member, keyed⟩

/-- The database answers; a violated constraint is its only error. -/
def Answered (event : Event Effect Answer) : Prop :=
  match event with
  | ⟨.getLatestTriggerByActionKey _, .error _⟩ | ⟨.getTriggerByIdempotencyKey _, .error _⟩ => False
  | ⟨.insertTrigger _ _, .error error⟩ | ⟨.updateTrigger _ _, .error error⟩ =>
    error.code = uniqueViolation
  | _ => True

def Table.answers (before : Table) (event : Event Effect Answer) (after : Table) : Prop :=
  before.serves event after ∧ Answered event

def Effect.sends : Effect → Bool
  | .sendTransaction _ _ _ => true
  | _ => false

def requestKey (request : TriggerRequest) : String :=
  generateActionKey request.triggerType.value request.tradeId

/-- Whatever the chain answers, the request returns this row and sends nothing. -/
structure Replays (settings : Settings) (table : Table) (request : TriggerRequest) (key : String) :
    Prop where
  ends : ∃ events result after,
    Program.Execution Table.answers (executeTrigger settings request).run table events (.done result) after
  returns : ∀ events result after,
    Program.Execution Table.answers (executeTrigger settings request).run table events (.done result) after →
      ∃ response, result = .ok response ∧ response.idempotencyKey = key
  silent : ∀ events rest after,
    Program.Execution Table.answers (executeTrigger settings request).run table events rest after →
      ∀ event ∈ events, event.effect.sends = false

/-- The action's latest row is this one, submitted or confirmed. -/
def Completed (table : Table) (actionKey key : String) : Prop :=
  ∀ latest, table.Latest actionKey latest →
    ∃ row, latest = some row ∧ row.idempotencyKey = key ∧ isActionAlreadyCompleted row = true

section Replay

variable {settings : Settings} {request : TriggerRequest}

/-- What a request that is no re-drive does with the action's latest row. -/
def answerLatest (settings : Settings) (request : TriggerRequest) (latest : Option Trigger) :
    Job TriggerResponse :=
  match latest with
  | some row =>
    if isActionAlreadyCompleted row then
      return completedResponse row (requestKey request) "Action already completed (idempotent)"
    else startTrigger settings request (requestKey request)
  | none => startTrigger settings request (requestKey request)

theorem executeTrigger_run (plain : request.isRedrive = false)
    (valid : wellFormedTradeId request.tradeId = true) :
    (executeTrigger settings request).run =
      .call (.getLatestTriggerByActionKey (requestKey request)) fun answer =>
        match answer with
        | .error error => .done (.error (.foreign error))
        | .ok latest => (answerLatest settings request latest).run := by
  unfold executeTrigger validateTradeId
  rw [if_pos valid]
  refine congrArg (Program.call _) (funext fun answer => ?_)
  cases answer with
  | error error => rfl
  | ok latest =>
    cases latest with
    | none => rfl
    | some row =>
      change (if isActionAlreadyCompleted row = true then _
        else if request.isRedrive = true ∧ row.status = .exhaustedNeedsRedrive then _ else _ : Job _).run = _
      rw [plain, if_neg (by simp : ¬ (false = true ∧ row.status = .exhaustedNeedsRedrive))]
      rfl

private theorem answerLatest_completed (completed : isActionAlreadyCompleted row = true) :
    (answerLatest settings request (some row)).run =
      .done (.ok (completedResponse row (requestKey request) "Action already completed (idempotent)")) := by
  unfold answerLatest
  dsimp only
  rw [if_pos completed]
  rfl

private theorem answerLatest_open (unsettled : ∀ row, latest = some row → isActionAlreadyCompleted row = false) :
    answerLatest settings request latest = startTrigger settings request (requestKey request) := by
  cases latest with
  | none => rfl
  | some row =>
    unfold answerLatest
    dsimp only
    rw [if_neg (Bool.eq_false_iff.mp (unsettled row rfl))]

/-- A node that does not answer `getTrade` ends a request that has to look. -/
theorem startTrigger_fails (settings : Settings) (request : TriggerRequest)
    (fresh : table.lookup (generateIdempotencyKey actionKey random) = none) :
    ∃ events failure, Program.Execution Table.answers (startTrigger settings request actionKey).run table
      events (.done (.error failure)) table := by
  let error : ForeignError := ⟨"fetch failed", "", none, none⟩
  obtain ⟨failure, thrown⟩ : ∃ failure, (if (Failure.foreign error).missingTrade then
      throw (.validation s!"Trade {request.tradeId} does not exist on-chain: {(Failure.foreign error).cause}")
      else throw (.foreign error) : Job TriggerResponse).run = .done (.error failure) := by
    split
    · exact ⟨_, rfl⟩
    · exact ⟨_, rfl⟩
  have looks : table.answers ⟨.getTriggerByIdempotencyKey (generateIdempotencyKey actionKey random),
      .ok none⟩ table := by
    refine ⟨⟨rfl, ?_⟩, trivial⟩
    rintro _ ⟨⟩
    exact fresh.symm
  have asks : table.answers ⟨.getTrade request.tradeId, .error error⟩ table := ⟨rfl, trivial⟩
  refine ⟨([⟨.randomBytes, random⟩,
    ⟨.getTriggerByIdempotencyKey (generateIdempotencyKey actionKey random), .ok none⟩,
    ⟨.getTrade request.tradeId, .error error⟩] : List (Event Effect Answer)), failure, ?_⟩
  have draws : table.answers ⟨.randomBytes, random⟩ table := ⟨rfl, trivial⟩
  refine .call draws ?_
  refine .call looks ?_
  refine .call asks ?_
  rw [← thrown]
  exact .stop _ _

/-- The first call of a request and its answer. -/
theorem execution_latest (plain : request.isRedrive = false)
    (valid : wellFormedTradeId request.tradeId = true) (latest : table.Latest (requestKey request) row)
    (rest : Program.Execution Table.answers (answerLatest settings request row).run table events final after) :
    Program.Execution Table.answers (executeTrigger settings request).run table
      (⟨.getLatestTriggerByActionKey (requestKey request), .ok row⟩ :: events) final after := by
  have found : table.answers ⟨.getLatestTriggerByActionKey (requestKey request), .ok row⟩ table := by
    refine ⟨⟨rfl, ?_⟩, trivial⟩
    rintro _ ⟨⟩
    exact latest
  rw [executeTrigger_run plain valid]
  exact .call found rest

private theorem execution_completed (settings : Settings) (plain : request.isRedrive = false)
    (valid : wellFormedTradeId request.tradeId = true) (newest : table.Latest (requestKey request) (some row))
    (settled : isActionAlreadyCompleted row = true) :
    Program.Execution Table.answers (executeTrigger settings request).run table
      [⟨.getLatestTriggerByActionKey (requestKey request), .ok (some row)⟩]
      (.done (.ok (completedResponse row (requestKey request) "Action already completed (idempotent)")))
      table := by
  apply execution_latest plain valid newest
  rw [answerLatest_completed settled]
  exact .stop _ table

/-- Where the latest row settles the request, nothing else can happen. -/
theorem execution_settled (plain : request.isRedrive = false)
    (valid : wellFormedTradeId request.tradeId = true) (completed : Completed table (requestKey request) key)
    (execution : Program.Execution Table.answers (executeTrigger settings request).run table events rest after) :
    (events = [] ∧ rest = (executeTrigger settings request).run) ∨
      ∃ row response, events = [⟨.getLatestTriggerByActionKey (requestKey request), .ok (some row)⟩] ∧
        rest = .done (.ok response) ∧ response.idempotencyKey = key := by
  rw [executeTrigger_run plain valid] at execution ⊢
  cases execution with
  | stop => exact .inl ⟨rfl, rfl⟩
  | @call effect before answer middle next events final after served execution =>
    right
    obtain ⟨⟨rfl, found⟩, answered⟩ := served
    cases answer with
    | error error => exact answered.elim
    | ok latest =>
      obtain ⟨row, rfl, keyed, settled⟩ := completed latest (found latest rfl)
      change Program.Execution Table.answers (answerLatest settings request (some row)).run _ _ _ _ at execution
      rw [answerLatest_completed settled] at execution
      cases execution
      exact ⟨row, _, rfl, rfl, keyed⟩

end Replay

/-- A request is answered with a row, whatever the chain answers, exactly if that row is
the latest of its action and submitted or confirmed. -/
theorem replays_iff_completed (settings : Settings) (table : Table) (request : TriggerRequest) (key : String)
    (plain : request.isRedrive = false) (valid : wellFormedTradeId request.tradeId = true) :
    Replays settings table request key ↔ Completed table (requestKey request) key := by
  constructor
  · intro replays latest newest
    by_cases settled : ∃ row, latest = some row ∧ isActionAlreadyCompleted row = true
    · obtain ⟨row, rfl, settled⟩ := settled
      obtain ⟨response, same, keyed⟩ :=
        replays.returns _ _ _ (execution_completed settings plain valid newest settled)
      cases same
      exact ⟨row, rfl, keyed, settled⟩
    · have unsettled : ∀ row, latest = some row → isActionAlreadyCompleted row = false := by
        intro row same
        by_contra completed
        exact settled ⟨row, same, by simpa using completed⟩
      obtain ⟨random, fresh⟩ := fresh_exists table (requestKey request)
      obtain ⟨events, failure, fails⟩ := startTrigger_fails settings request fresh
      rw [← answerLatest_open unsettled] at fails
      obtain ⟨response, same, _⟩ := replays.returns _ _ _ (execution_latest plain valid newest fails)
      cases same
  · intro completed
    constructor
    · obtain ⟨latest, newest⟩ := latest_exists table (requestKey request)
      obtain ⟨row, rfl, _, settled⟩ := completed latest newest
      exact ⟨_, _, _, execution_completed settings plain valid newest settled⟩
    · intro events result after execution
      rcases execution_settled plain valid completed execution with ⟨_, same⟩ | ⟨_, response, _, same, keyed⟩
      · rw [executeTrigger_run plain valid] at same
        cases same
      · cases same
        exact ⟨response, rfl, keyed⟩
    · intro events rest after execution
      rcases execution_settled plain valid completed execution with ⟨rfl, _⟩ | ⟨_, _, rfl, _, _⟩
      · simp
      · simp [Effect.sends]

/-- A table with one row, the transaction of the request submitted. -/
def submittedTable : Table :=
  ⟨[UpdateTriggerData.apply { status := some .submitted, txHash := some "0x01" }
    (CreateTriggerData.row ⟨"RELEASE_STAGE_1:1", "req-1", "RELEASE_STAGE_1:1:6", "1", .releaseStage1, none,
      .pending⟩ 0)], by simp, by simp⟩

theorem submittedRequest_replays :
    Replays plainSettings submittedTable (releaseRequest false) "RELEASE_STAGE_1:1:6" := by
  apply (replays_iff_completed _ _ _ _ rfl (by decide +kernel)).mpr
  intro latest newest
  cases latest with
  | none => exact absurd rfl (newest _ List.mem_cons_self)
  | some row =>
    obtain ⟨member, _⟩ := newest
    obtain rfl := List.mem_singleton.mp member
    exact ⟨_, rfl, rfl, rfl⟩

def sends (pid : Nat) : ServiceMove → Bool
  | .perform other ⟨.sendTransaction _ _ _, _⟩ => other = pid
  | _ => false

/-- Until the contract stops reverting, a transaction is refused for good. -/
def revertsUntil (moves : Nat) : Script :=
  { lockedTrade with
    sendTransaction := fun time _ =>
      if time < moves then .error ⟨"execution reverted: paused", "", none, none⟩ else .ok ⟨"0x01", 7⟩ }

/-- A request whose first run ended in `TERMINAL_FAILURE` gets a new row when it is
repeated, and a transaction. -/
theorem repeatedRequest_sends :
    ∃ (early late : ServiceHistory Unit) (middle pool : ServicePool Unit) (first second : TriggerResponse),
      (service plainSettings anything).system.Run early middle ∧
        Path (service plainSettings anything).system middle late pool ∧
        Started early 0 (.executeTrigger (releaseRequest false)) ∧
        middle.running 0 = some (.done (.ok (some first))) ∧ first.status = .terminalFailure ∧
        Started late 1 (.executeTrigger (releaseRequest false)) ∧
        pool.running 1 = some (.done (.ok (some second))) ∧
        first.idempotencyKey ≠ second.idempotencyKey ∧ (late.map Transition.label).any (sends 1) = true := by
  have outcome : ((rehearse plainSettings (revertsUntil 15) .empty
      [.start 0 (.executeTrigger (releaseRequest false)), .go 0 13]).bind fun drive =>
        ((service plainSettings anything).schedule (revertsUntil 15).respond
          [.start 1 (.executeTrigger (releaseRequest false)), .go 1 14] drive).map fun final =>
            ((drive.1.any (startsRequest 0 (releaseRequest false)),
              (responseOf drive.2 0).map fun response => (response.idempotencyKey, response.status)),
            (drive.1.any (startsRequest 1 (releaseRequest false)),
              final.1.any (startsRequest 1 (releaseRequest false))),
            (drive.1.any (sends 1), final.1.any (sends 1)),
            (responseOf final.2 1).map TriggerResponse.idempotencyKey)) =
      some ((true, some ("RELEASE_STAGE_1:1:6", .terminalFailure)), (false, true), (false, true),
        some "RELEASE_STAGE_1:1:20") := by
    decide +kernel
  obtain ⟨drive, success, rest⟩ := Option.bind_eq_some_iff.mp outcome
  obtain ⟨final, later, facts⟩ := Option.map_eq_some_iff.mp rest
  simp only [Prod.mk.injEq, Option.map_eq_some_iff] at facts
  obtain ⟨⟨started, first, returned, keyed, failed⟩, ⟨unstarted, restarted⟩, ⟨unsent, sent⟩, second, returned',
    keyed'⟩ := facts
  obtain ⟨early, run, labels⟩ := rehearse_run success
  obtain ⟨late, path, labels'⟩ := Server.Driven.schedule (revertsUntil 15).respond_sound
    ⟨[], .start, rfl⟩ later
  rw [labels', List.any_append, unstarted, Bool.or_false] at restarted
  rw [labels', List.any_append, unsent, Bool.or_false] at sent
  exact ⟨early, late, _, _, first, second, run, path, started_of_labels (labels ▸ started),
    running_of_responseOf returned, failed, started_of_labels restarted, running_of_responseOf returned',
    by rw [keyed, keyed']; decide, sent⟩

end Agroasys.Oracle
