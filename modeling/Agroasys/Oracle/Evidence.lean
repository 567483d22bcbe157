import Agroasys.Foundation.Lockstep
import Agroasys.Escrow.MockUSDC
import Agroasys.Oracle.Bench
import Agroasys.Oracle.Onchain
import Agroasys.Oracle.Verification

namespace Agroasys.Oracle

open Function Agroasys.Foundation Agroasys.Escrow

/-- The trade that a call got last, and the chain when it did. -/
def LastLook (history : ServiceHistory κ) (pid : Nat) (tradeId : String) (trade : Trade) (seen : κ) : Prop :=
  ∃ later look earlier, history = later ++ look :: earlier ∧
    look.label = .perform pid ⟨.getTrade tradeId, .ok trade⟩ ∧ look.before.world.chain = seen ∧
    ∀ entry ∈ later, ∀ other answer, entry.label ≠ .perform pid ⟨.getTrade other, .ok answer⟩

private theorem LastLook.head {history : ServiceHistory κ} {entry : ServiceEntry κ}
    (label : entry.label = .perform pid ⟨.getTrade tradeId, .ok trade⟩) :
    LastLook (entry :: history) pid tradeId trade entry.before.world.chain :=
  ⟨[], entry, history, rfl, label, rfl, by simp⟩

private theorem LastLook.later {history : ServiceHistory κ} (look : LastLook history pid tradeId trade seen)
    (other : ∀ tradeId trade, entry.label ≠ .perform pid ⟨.getTrade tradeId, .ok trade⟩) :
    LastLook (entry :: history) pid tradeId trade seen := by
  obtain ⟨later, found, earlier, same, label, chain, last⟩ := look
  refine ⟨entry :: later, found, earlier, by rw [same, List.cons_append], label, chain, ?_⟩
  rw [List.forall_mem_cons]
  exact ⟨other, last⟩

/-- The row is still there, about the same action. -/
def Stays (table : Table) (row : Trigger) : Prop :=
  ∃ current, table.lookup row.idempotencyKey = some current ∧ current.tradeId = row.tradeId ∧
    current.triggerType = row.triggerType

private theorem Stays.of_mem {table : Table} (member : row ∈ table.rows) : Stays table row :=
  ⟨row, Table.lookup_of_mem member, rfl, rfl⟩

section Stays

variable {before after : Table}

private theorem Stays.updated {change : Trigger → Trigger} (stays : Stays before row)
    (updated : after.lookup = update before.lookup key ((before.lookup key).map change))
    (same : ∀ old, (change old).tradeId = old.tradeId ∧ (change old).triggerType = old.triggerType) :
    Stays after row := by
  obtain ⟨current, found, tradeId, triggerType⟩ := stays
  by_cases equal : row.idempotencyKey = key
  · refine ⟨change current, ?_, (same current).1.trans tradeId, (same current).2.trans triggerType⟩
    rw [updated, ← equal, update_self, found, Option.map_some]
  · exact ⟨current, by rw [updated, update_of_ne equal, found], tradeId, triggerType⟩

private theorem Stays.decided {change : Trigger → Trigger} {answered : Trigger → Prop} {unanswered : Prop}
    (stays : Stays before row)
    (decision : (∃ old, before.lookup key = some old ∧ old.status = .pendingApproval ∧
        after.lookup = update before.lookup key (some (change old)) ∧ answered old) ∨
      (after.lookup = before.lookup ∧ unanswered))
    (same : ∀ old, (change old).tradeId = old.tradeId ∧ (change old).triggerType = old.triggerType) :
    Stays after row := by
  rcases decision with ⟨old, found, _, updated, _⟩ | ⟨kept, _⟩
  · exact stays.updated (by rw [updated, found, Option.map_some]) same
  · obtain ⟨current, found, action⟩ := stays
    exact ⟨current, kept ▸ found, action⟩

/-- No statement takes a row away or makes it about something else. -/
theorem Stays.served (stays : Stays before row) (served : before.serves event after) : Stays after row := by
  obtain ⟨effect, answer⟩ := event
  cases effect
  case insertTrigger origin data =>
    rcases insert_served served with ⟨createdAt, fresh, inserted, _⟩ | ⟨kept, _⟩
    · obtain ⟨current, found, action⟩ := stays
      have different : row.idempotencyKey ≠ data.idempotencyKey := by
        intro equal
        rw [equal, fresh] at found
        cases found
      exact ⟨current, by rw [inserted, update_of_ne different, found], action⟩
    · exact kept ▸ stays
  case updateTrigger key updates =>
    rcases update_served served with updated | ⟨kept, _⟩
    · exact stays.updated updated fun _ => ⟨rfl, rfl⟩
    · exact kept ▸ stays
  case approveTrigger key actor => exact stays.decided (approve_served served) fun _ => ⟨rfl, rfl⟩
  case rejectTrigger key actor reason => exact stays.decided (reject_served served) fun _ => ⟨rfl, rfl⟩
  all_goals exact serves_read served rfl ▸ stays

end Stays

variable {σ Op : Type} {chain : Chain σ Op} {tradeIdOf : String → Option Nat}

/-- The looks from which the service draws a wrong conclusion: the trade does not exist,
has not come to the status the action starts from, waits for the end of its dispute
window, or was closed around the action. -/
inductive Misread (tradeIdOf : String → Option Nat) (row : Trigger) (trade : Trade) (seen : Onchain chain) :
    Prop where
  | missing (failure : Failure) (refused : checkTrade row.tradeId trade = .error failure)
  | early (unready : trade.status ∈ row.triggerType.unready)
  | waiting (finalizes : row.triggerType = .finalizeTrade) (arrived : trade.status = .arrivalConfirmed)
  | bypassed (number : Nat) (source : TradeStatus) (denoted : tradeIdOf row.tradeId = some number)
      (around : source ∈ row.triggerType.bypasses) (closed : seen.Changed number source .closed)

/-- A step that marks a row as verified follows no such look. -/
def Clear (tradeIdOf : String → Option Nat) (earlier : ServiceHistory (Onchain chain))
    (entry : ServiceEntry (Onchain chain)) : Prop :=
  ∀ pid key answer row trade seen, entry.label = .perform pid ⟨.updateTrigger key verifiedUpdates, answer⟩ →
    entry.before.world.table.lookup key = some row → LastLook earlier pid row.tradeId trade seen →
      ¬ Misread tradeIdOf row trade seen

/-- What a call knows about its rows and about the trade it looked at. -/
def Verifier.Informed (tradeIdOf : String → Option Nat) (history : ServiceHistory (Onchain chain))
    (state : State (Onchain chain)) (pid : Nat) : Verifier → Prop
  | .checking rows look => (∀ row ∈ rows, Stays state.table row) ∧
      ∀ tradeId trade, look = some (tradeId, trade) → ∃ seen number, LastLook history pid tradeId trade seen ∧
        seen.history ⊆ state.chain.history ∧ tradeIdOf tradeId = some number ∧
        trade = viewTrade (seen.world.trades number)
  | _ => True

private theorem Verifier.Informed.later {role : Verifier} {history : ServiceHistory (Onchain chain)}
    {before after : State (Onchain chain)} (informed : role.Informed tradeIdOf history before pid)
    (stays : ∀ row, Stays before.table row → Stays after.table row)
    (kept : before.chain.history ⊆ after.chain.history)
    (other : ∀ tradeId trade, entry.label ≠ .perform pid ⟨.getTrade tradeId, .ok trade⟩) :
    role.Informed tradeIdOf (entry :: history) after pid := by
  cases role with
  | checking rows look =>
    obtain ⟨present, looked⟩ := informed
    refine ⟨fun row member => stays row (present row member), ?_⟩
    intro tradeId trade same
    obtain ⟨seen, number, last, past, view⟩ := looked tradeId trade same
    exact ⟨seen, number, last.later other, List.Subset.trans past kept, view⟩
  | _ => trivial

/-- A call that looks at a trade, or gets its rows, knows what it got. -/
theorem Verifier.Informed.after {role : Verifier} {history : ServiceHistory (Onchain chain)}
    {entry : ServiceEntry (Onchain chain)} {event : Event Effect Answer}
    (informed : role.Informed tradeIdOf history entry.before.world pid)
    (label : entry.label = .perform pid event)
    (served : State.serves (escrowOutside chain tradeIdOf) entry.before.world event entry.after.world) :
    (role.after event.effect event.answer).Informed tradeIdOf (entry :: history) entry.after.world pid := by
  obtain ⟨effect, answer⟩ := event
  obtain ⟨database, _, escrow⟩ := served
  cases role with
  | asking isRedrive =>
    cases effect
    case getLatestTriggerByActionKey actionKey =>
      rcases answer with error | (none | latest)
      · trivial
      · trivial
      · obtain ⟨same, found⟩ := database
        have member : latest ∈ entry.after.world.table.rows := by
          rw [same]
          exact (found _ rfl).1
        simp only [Verifier.after]
        split
        · refine ⟨?_, fun _ _ looked => by cases looked⟩
          intro row single
          rw [List.mem_singleton.mp single]
          exact .of_mem member
        · trivial
    all_goals trivial
  | fetching =>
    cases effect
    case getTriggersByStatus status limit =>
      cases answer with
      | error error => trivial
      | ok rows =>
        obtain ⟨same, found⟩ := database
        refine ⟨?_, fun _ _ looked => by cases looked⟩
        intro row member
        rw [same]
        exact .of_mem ((found rows rfl).selected row member).1
    all_goals trivial
  | busy => trivial
  | checking rows look =>
    have stays (row : Trigger) (before : Stays entry.before.world.table row) :
        Stays entry.after.world.table row := before.served database
    cases effect
    case getTrade tradeId =>
      cases answer with
      | error error =>
        apply informed.later stays (escrow_keeps escrow)
        intro other trade same
        rw [label] at same
        cases same
      | ok trade =>
        refine ⟨fun row member => stays row (informed.1 row member), ?_⟩
        intro other seen same
        cases same
        obtain ⟨number, denoted, view⟩ := escrow.1 trade rfl
        exact ⟨_, number, .head label, escrow_keeps escrow, denoted, view⟩
    all_goals
      apply informed.later stays (escrow_keeps escrow)
      intro other trade same
      rw [label] at same
      cases same

private theorem verifications_informed {settings : Settings}
    (run : (service settings (escrowOutside chain tradeIdOf)).system.Run history pool) :
    ∃ cast, Cast verification cast pool.running ∧
      ∀ pid role, cast pid = some role → role.Informed tradeIdOf history pool.world pid := by
  have unconditional : Throughout (fun _ _ => True) history := fun _ _ _ _ => trivial
  apply Server.run_roles
    (fun history pool cast => ∀ pid role, cast pid = some role → role.Informed tradeIdOf history pool.world pid)
    (service_verifies settings _) ?_ ?_ ?_ ?_ run unconditional
  · intro pool initial pid role assigned
    cases assigned
  · intro history pool cast pid call next _ _ informed _ started other role assigned
    subst started
    rcases update_assigned assigned with ⟨_, rfl⟩ | ⟨_, assigned⟩
    · cases call <;> trivial
    · apply (informed other role assigned).later (fun _ => id) (List.Subset.refl _)
      intro _ _ same
      cases same
  · intro history pool cast pid event role rest next _ _ informed _ assigned permitted served advanced other
      role' assigned'
    rcases update_assigned assigned' with ⟨rfl, rfl⟩ | ⟨different, assigned'⟩
    · exact Verifier.Informed.after (informed other role assigned) rfl served
    · apply (informed other role' assigned').later (fun _ stays => stays.served served.1)
        (escrow_keeps served.2.2)
      intro _ _ same
      cases same
      exact different rfl
  · intro history pool cast next _ informed drifted _ pid role assigned
    have kept : pool.world.chain.history ⊆ next.world.chain.history := by
      rcases drifted.2.2 with same | ⟨action, executes⟩
      · rw [same]
        exact List.Subset.refl _
      · exact executes.keeps
    apply (informed pid role assigned).later ?_ kept
    · intro _ _ same
      cases same
    · intro row stays
      rw [drifted.1]
      exact stays

/-- A trade taken as done, rightly, is past the action. -/
theorem TakenAsDone.past {row : Trigger} {seen : Onchain chain} (done : TakenAsDone row trade)
    (right : ¬ Misread tradeIdOf row trade seen) : row.triggerType.past trade.status = true := by
  have moved : trade.status ≠ row.triggerType.source := by
    intro source
    rcases done with ⟨failure, refused⟩ | ⟨now, failure, refused⟩
    · exact right (.missing failure refused)
    · cases triggerType : row.triggerType with
      | finalizeTrade =>
        rw [triggerType] at source
        exact right (.waiting triggerType source)
      | releaseStage1 | confirmArrival =>
        have valid : validateStatus row.triggerType trade = .ok () := validateStatus_eq_ok.mpr source
        rw [triggerType] at refused valid
        have same : validateStatus _ trade = .error failure := refused
        rw [valid] at same
        cases same
  have ready : trade.status ∉ row.triggerType.unready := fun unready => right (.early unready)
  unfold TriggerType.past
  simp [moved, ready]

/-- A row that a re-drive or the fallback confirms stands for an action the escrow has
seen, where no such step misreads its look. -/
theorem confirmed_done {settings : Settings}
    (run : (service settings (escrowOutside chain tradeIdOf)).system.Run history pool)
    (clear : Throughout (Clear tradeIdOf) history) (member : entry ∈ history)
    (confirms : entry.label = .perform pid ⟨.updateTrigger key verifiedUpdates, answer⟩)
    (found : entry.before.world.table.lookup key = some row) :
    ∃ number, tradeIdOf row.tradeId = some number ∧
      entry.before.world.chain.Changed number row.triggerType.source row.triggerType.target := by
  obtain ⟨later, earlier, same, before, step, _⟩ := run.cut member
  obtain ⟨cast, playing, informed⟩ := verifications_informed before
  rw [confirms] at step
  obtain ⟨rest, present, _⟩ := step
  obtain ⟨role, assigned, follows⟩ := playing.assigned present
  obtain ⟨rows, checked, trade, rfl, batch, keyed, done⟩ := follows.1 rfl
  obtain ⟨stay, looked⟩ := informed pid _ assigned
  obtain ⟨current, kept, tradeId, triggerType⟩ := stay checked batch
  rw [keyed, found, Option.some.injEq] at kept
  subst kept
  obtain ⟨seen, number, look, past, denoted, view⟩ := looked _ _ rfl
  rw [← tradeId] at denoted look
  have right := clear later entry earlier same pid key answer row trade seen confirms found look
  have beyond : row.triggerType.past trade.status = true := by
    apply TakenAsDone.past _ right
    cases done with
    | missing failure refused => exact .missing failure (tradeId ▸ refused)
    | refused now failure refused => exact .refused now failure (triggerType ▸ refused)
  rw [view] at beyond
  refine ⟨number, denoted, ?_⟩
  rcases seen.past_changed beyond with changed | ⟨source, around, closed⟩
  · exact changed.later past
  · exact absurd (.bypassed number source denoted around closed) right

section Standing

variable {κ : Type} (seen : κ)

/-- The pool of a rehearsal, over a chain. -/
def atop (pool : ServicePool Unit) : ServicePool κ :=
  ⟨⟨pool.world.table, pool.world.checks, seen⟩, pool.running⟩

def atopEntry (entry : ServiceEntry Unit) : ServiceEntry κ :=
  ⟨atop seen entry.before, entry.label, atop seen entry.after⟩

/-- The chain may answer this and stay as it is. -/
def Stands (outside : Outside κ) : ServiceMove → Prop
  | .perform _ event => outside.serves seen event seen
  | _ => True

/-- A rehearsal whose answers a chain may give is a run over that chain. -/
theorem standing_run {settings : Settings} {outside : Outside κ}
    (run : (service settings anything).system.Run history pool)
    (stands : ∀ entry ∈ history, Stands seen outside entry.label) :
    (service settings outside).system.Run (history.map (atopEntry seen)) (atop seen pool) := by
  obtain ⟨origin, initial, path⟩ := run
  refine ⟨atop seen origin, ⟨trivial, initial.2⟩, path.image ?_⟩
  intro entry member
  obtain ⟨_, _, _, _, step, _⟩ := path.cut member
  have stand := stands entry member
  obtain ⟨before, label, after⟩ := entry
  cases label with
  | start pid call =>
    obtain ⟨absent, same⟩ := step
    exact ⟨absent, congrArg (atop seen) same⟩
  | perform pid event =>
    obtain ⟨rest, present, served, advanced⟩ := step
    exact ⟨rest, present, ⟨served.1, served.2.1, stand⟩, advanced⟩
  | drift =>
    obtain ⟨⟨table, checks, _⟩, running⟩ := step
    exact ⟨⟨table, checks, .inl rfl⟩, running⟩

end Standing

/-- Every look at the chain finds this trade. -/
def finds (trade : Trade) : ServiceMove → Bool
  | .perform _ ⟨.getTrade tradeId, answer⟩ => decide (tradeId = "1") && decide (answer.toOption = some trade)
  | .perform _ ⟨.sendTransaction _ _ _, _⟩ => false
  | .perform _ ⟨.findConfirmationEvent _ _, _⟩ => false
  | _ => true

theorem stands_of_finds {seen : Onchain chain} (finding : finds (viewTrade (seen.world.trades 1)) label = true)
    (denoted : tradeIdOf "1" = some 1) : Stands seen (escrowOutside chain tradeIdOf) label := by
  cases label with
  | perform pid event =>
    obtain ⟨effect, answer⟩ := event
    cases effect
    case getTrade tradeId =>
      simp only [finds, Bool.and_eq_true, decide_eq_true_eq] at finding
      refine ⟨?_, rfl⟩
      rintro trade rfl
      obtain ⟨rfl, same⟩ := finding
      exact ⟨1, denoted, Option.some.inj same⟩
    case sendTransaction key triggerType tradeId => cases finding
    case findConfirmationEvent txHash tradeId => cases finding
    all_goals rfl
  | _ => trivial

open Mock in
/-- A second trade, created and then moved once. -/
theorem secondTrade_seen (last : Action MockUSDC.Operation) (status : TradeStatus)
    (outcome : ((scenario (config [admin1, admin2] 1) [call buyer 1 (.createTrade order),
        call buyer 1 (.createTrade { order with buyerNonce := 1 })]).bind fun s =>
      (replay mockChain [last] s).map fun next => ((s.trades 1).status, viewTrade (next.trades 1))) =
        some (.locked, ⟨1, buyer, status, none⟩)) :
    ∃ seen : Onchain mockChain, viewTrade (seen.world.trades 1) = ⟨1, buyer, status, none⟩ ∧
      ∀ source target, seen.Changed 1 source target → target = .locked ∨ target = status := by
  obtain ⟨s, reached, rest⟩ := Option.bind_eq_some_iff.mp outcome
  obtain ⟨next, moves, facts⟩ := Option.map_eq_some_iff.mp rest
  obtain ⟨locked, view⟩ := Prod.mk.inj facts
  obtain ⟨history, run⟩ := scenario_run reached
  refine ⟨⟨_, next, run.extend (.single (replay_single moves))⟩, view, ?_⟩
  intro source target changed
  obtain ⟨entry, member, _, reaches⟩ := changed
  rcases List.mem_cons.mp member with rfl | earlier
  · exact .inr (reaches.symm.trans (congrArg Trade.status view))
  · exact .inl (reaches.symm.trans (Onchain.unmoved ⟨history, s, run⟩ locked entry earlier))

def exhaustedRow : Trigger :=
  UpdateTriggerData.apply { status := some .exhaustedNeedsRedrive, attemptCount := some 3 } pendingRow

def exhaustedTable : Table := ⟨[exhaustedRow], by simp, by simp⟩

def finding (trade : Trade) : Script :=
  { lockedTrade with getTrade := fun _ _ => .ok trade }

/-- A trade id in decimal digits. -/
def decimal (tradeId : String) : Option Nat :=
  if wellFormedTradeId tradeId then
    some (tradeId.toList.foldl (fun number digit => 10 * number + (digit.toNat - '0'.toNat)) 0)
  else none

/-- The row that a step marks as verified. -/
def marks : ServiceMove → Option String
  | .perform _ ⟨.updateTrigger key updates, _⟩ => if updates = verifiedUpdates then some key else none
  | _ => none

private theorem marks_eq_some {label : ServiceMove} (marked : marks label = some key) :
    ∃ pid answer, label = .perform pid ⟨.updateTrigger key verifiedUpdates, answer⟩ := by
  unfold marks at marked
  split at marked
  · rename_i pid row updates answer
    split at marked
    · rename_i same
      cases marked
      exact ⟨pid, answer, by rw [same]⟩
    · cases marked
  · cases marked

/-- A re-drive of the exhausted row, over a chain where the trade has left `LOCKED`. -/
theorem redrive_confirms {seen : Onchain chain} {status : TradeStatus}
    (view : viewTrade (seen.world.trades 1) = ⟨1, Mock.buyer, status, none⟩) (moved : status ≠ .locked)
    (denoted : tradeIdOf "1" = some 1) :
    ∃ (history : ServiceHistory (Onchain chain)) (pool : ServicePool (Onchain chain))
      (entry : ServiceEntry (Onchain chain)) (pid : Nat) (answer : Except ForeignError Unit),
      (service plainSettings (escrowOutside chain tradeIdOf)).system.Run (entry :: history) pool ∧
        entry.label = .perform pid ⟨.updateTrigger exhaustedRow.idempotencyKey verifiedUpdates, answer⟩ ∧
        entry.before.world.table.lookup exhaustedRow.idempotencyKey = some exhaustedRow ∧
        entry.before.world.chain = seen ∧ pool.world.chain = seen ∧
        pool.world.table.status exhaustedRow.idempotencyKey = some .confirmed ∧
        ∀ other ∈ history, other.before.world.chain = seen ∧ marks other.label = none ∧
          finds ⟨1, Mock.buyer, status, none⟩ other.label = true := by
  have outcome : ((rehearse plainSettings (finding ⟨1, Mock.buyer, status, none⟩) exhaustedTable
      [.start 0 (.executeTrigger (releaseRequest true)), .go 0 3]).bind fun drive =>
        (Server.advance (finding ⟨1, Mock.buyer, status, none⟩).respond 0 drive).map fun next =>
          ((next.1.head?.bind marks, drive.2.world.table.lookup exhaustedRow.idempotencyKey),
            (next.1.tail.all fun label => (marks label).isNone, next.1.all (finds ⟨1, Mock.buyer, status, none⟩)),
            next.2.world.table.status exhaustedRow.idempotencyKey)) =
      some ((some exhaustedRow.idempotencyKey, some exhaustedRow), (true, true), some .confirmed) := by
    cases status with
    | locked => exact absurd rfl moved
    | _ => decide +kernel
  obtain ⟨drive, success, rest⟩ := Option.bind_eq_some_iff.mp outcome
  obtain ⟨next, last, facts⟩ := Option.map_eq_some_iff.mp rest
  obtain ⟨entry, history, run, before, after, labels⟩ := rehearse_advance success last
  rw [← before, ← labels] at facts
  simp only [Prod.mk.injEq, List.map_cons, List.head?_cons, Option.bind_some, List.tail_cons,
    List.all_map, List.all_cons, Bool.and_eq_true, List.all_eq_true, Function.comp_apply,
    Option.isNone_iff_eq_none] at facts
  obtain ⟨⟨marked, found⟩, ⟨unmarked, first, finding⟩, confirmed⟩ := facts
  obtain ⟨pid, answer, label⟩ := marks_eq_some marked
  have stands : ∀ other ∈ entry :: history, Stands seen (escrowOutside chain tradeIdOf) other.label := by
    rw [List.forall_mem_cons]
    rw [← view] at first finding
    exact ⟨stands_of_finds first denoted, fun other member => stands_of_finds (finding other member) denoted⟩
  refine ⟨_, _, atopEntry seen entry, pid, answer, standing_run seen run stands, label, found, rfl, rfl,
    confirmed, ?_⟩
  intro other member
  obtain ⟨rehearsed, present, rfl⟩ := List.mem_map.mp member
  exact ⟨rfl, unmarked rehearsed present, finding rehearsed present⟩

open Mock in
/-- The trade was released and nothing else. -/
theorem released_clear {seen : Onchain mockChain}
    (changes : ∀ source target, seen.Changed 1 source target → target = .locked ∨ target = .inTransit) :
    ¬ Misread decimal exhaustedRow ⟨1, buyer, .inTransit, none⟩ seen := by
  have denoted : decimal exhaustedRow.tradeId = some 1 := by decide +kernel
  intro misread
  cases misread with
  | missing failure refused => cases refused
  | early unready => cases unready
  | waiting finalizes => cases finalizes
  | bypassed number source same around closed =>
    cases denoted.symm.trans same
    rcases changes _ _ closed with impossible | impossible <;> cases impossible

open Mock in
/-- A re-drive after the release. -/
theorem releasedTrade_done :
    ∃ (entry : ServiceEntry (Onchain mockChain)) (number : Nat),
      entry.before.world.table.lookup exhaustedRow.idempotencyKey = some exhaustedRow ∧
        decimal exhaustedRow.tradeId = some number ∧
        entry.before.world.chain.Changed number .locked .inTransit := by
  obtain ⟨seen, view, changes⟩ :=
    secondTrade_seen (call oracle 2 (.releaseFundsStage1 1)) .inTransit (by decide +kernel)
  have denoted : decimal "1" = some 1 := by decide +kernel
  obtain ⟨history, pool, entry, pid, answer, run, label, found, chain, _, _, quiet⟩ :=
    redrive_confirms view (by decide) denoted
  have clear : Throughout (Clear decimal) (entry :: history) := by
    intro later other earlier same pid' key answer' row trade witnessed marked present look
    cases later with
    | nil =>
      obtain ⟨rfl, rfl⟩ := List.cons.inj same
      rw [label] at marked
      cases marked
      cases found.symm.trans present
      obtain ⟨_, look, _, before, looked, rfl, _⟩ := look
      obtain ⟨standing, _, known⟩ := quiet look (by simp [before])
      rw [looked] at known
      simp only [finds, Except.toOption, Bool.and_eq_true, decide_eq_true_eq, Option.some.injEq] at known
      rw [known.2, standing]
      exact released_clear changes
    | cons head later =>
      have member : other ∈ history := by
        rw [(List.cons.inj same).2]
        simp
      have unmarked := (quiet other member).2.1
      rw [marked] at unmarked
      simp [marks] at unmarked
  obtain ⟨number, same, changed⟩ := confirmed_done run clear List.mem_cons_self label found
  exact ⟨entry, number, found, same, changed⟩

open Mock in
/-- A re-drive after the buyer took the trade back. -/
theorem cancelledTrade_confirmed :
    ∃ (history : ServiceHistory (Onchain mockChain)) (pool : ServicePool (Onchain mockChain))
      (entry : ServiceEntry (Onchain mockChain)) (pid : Nat) (answer : Except ForeignError Unit),
      (service plainSettings (escrowOutside mockChain decimal)).system.Run (entry :: history) pool ∧
        entry.label = .perform pid ⟨.updateTrigger exhaustedRow.idempotencyKey verifiedUpdates, answer⟩ ∧
        entry.before.world.table.lookup exhaustedRow.idempotencyKey = some exhaustedRow ∧
        pool.world.table.status exhaustedRow.idempotencyKey = some .confirmed ∧
        ∀ number, decimal exhaustedRow.tradeId = some number →
          ¬ pool.world.chain.Changed number .locked .inTransit := by
  obtain ⟨seen, view, changes⟩ :=
    secondTrade_seen (call buyer 700000 (.cancelLockedTradeAfterTimeout 1)) .closed (by decide +kernel)
  have denoted : decimal "1" = some 1 := by decide +kernel
  obtain ⟨history, pool, entry, pid, answer, run, label, found, _, chain, confirmed, _⟩ :=
    redrive_confirms view (by decide) denoted
  refine ⟨history, pool, entry, pid, answer, run, label, found, confirmed, ?_⟩
  intro number same changed
  cases denoted.symm.trans same
  rw [chain] at changed
  rcases changes _ _ changed with impossible | impossible <;> cases impossible

end Agroasys.Oracle
