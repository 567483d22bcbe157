import Agroasys.Foundation.Deliberation
import Agroasys.Escrow.MockUSDC

namespace Agroasys.Escrow

open Agroasys.Foundation

variable {σ Op : Type} {chain : Chain σ Op}

theorem Ruling.oracleUpdate_steps (ruling : Ruling p msg g call next) :
    ProposalBook.Steps (g.oracleUpdateRules p) msg.timestamp msg.sender g.oracleUpdate
      next.oracleUpdate := by
  cases ruling with
  | oracleUpdateMoved _ motion => exact .single (.moved motion)
  | oracleUpdated proposalId enactable => exact .single (.executed proposalId enactable)
  | _ => exact .refl

private theorem Ruling.adminAdd_steps (ruling : Ruling p msg g call next) :
    ProposalBook.Steps (g.adminAddRules p) msg.timestamp msg.sender g.adminAdd next.adminAdd := by
  cases ruling with
  | adminAddMoved _ motion => exact .single (.moved motion)
  | adminAdded proposalId enactable => exact .single (.executed proposalId enactable)
  | _ => exact .refl

private theorem Ruling.treasuryPayoutAddressUpdate_steps (ruling : Ruling p msg g call next) :
    ProposalBook.Steps (g.treasuryPayoutAddressUpdateRules p) msg.timestamp msg.sender
      g.treasuryPayoutAddressUpdate next.treasuryPayoutAddressUpdate := by
  cases ruling with
  | treasuryPayoutAddressUpdateMoved _ motion => exact .single (.moved motion)
  | treasuryPayoutAddressUpdated proposalId enactable => exact .single (.executed proposalId enactable)
  | _ => exact .refl

/-- Only calls of the contract rule. -/
theorem step_ruled {s next : World σ} (reachable : (escrowSystem chain).Reachable s)
    (step : (escrowSystem chain).step s action next) :
    next.toGovernance = s.toGovernance ∨ ∃ call, action = .escrow action.message call ∧
      Ruling s.toParameters action.message s.toGovernance call next.toGovernance := by
  obtain ⟨history, run⟩ := reachable
  cases step_transacted (run_established run).unopened step with
  | called msg call _ _ _ _ ruling => exact .inr ⟨call, rfl, ruling⟩
  | foreign => exact .inl rfl

theorem opened_books {config : Config} {s : World σ} (deployed : config.Deployed s) :
    s.oracleUpdate = .empty ⟨.zero, 0, false⟩ .zero ∧ s.adminAdd = .empty ⟨.zero, 0⟩ .zero ∧
      s.treasuryPayoutAddressUpdate = .empty ⟨.zero, 0⟩ .zero := by
  obtain ⟨_, _, rfl⟩ := deployed.world
  exact ⟨rfl, rfl, rfl⟩

def oracleUpdates (chain : Chain σ Op) : Deliberation (escrowSystem chain) Address OracleUpdate where
  book s := s.oracleUpdate
  rules s := s.oracleUpdateRules s.toParameters
  time action := action.message.timestamp
  voter action := action.message.sender
  opened _ := fun ⟨_, deployed⟩ => ⟨_, _, (opened_books deployed).1⟩
  steps s action next reachable step := by
    rcases step_ruled reachable step with same | ⟨call, _, ruling⟩
    · rw [same]
    · exact ruling.oracleUpdate_steps

def adminAdds (chain : Chain σ Op) : Deliberation (escrowSystem chain) Address AdminAdd where
  book s := s.adminAdd
  rules s := s.adminAddRules s.toParameters
  time action := action.message.timestamp
  voter action := action.message.sender
  opened _ := fun ⟨_, deployed⟩ => ⟨_, _, (opened_books deployed).2.1⟩
  steps s action next reachable step := by
    rcases step_ruled reachable step with same | ⟨call, _, ruling⟩
    · rw [same]
    · exact ruling.adminAdd_steps

def treasuryPayoutAddressUpdates (chain : Chain σ Op) :
    Deliberation (escrowSystem chain) Address TreasuryPayoutAddressUpdate where
  book s := s.treasuryPayoutAddressUpdate
  rules s := s.treasuryPayoutAddressUpdateRules s.toParameters
  time action := action.message.timestamp
  voter action := action.message.sender
  opened _ := fun ⟨_, deployed⟩ => ⟨_, _, (opened_books deployed).2.2⟩
  steps s action next reachable step := by
    rcases step_ruled reachable step with same | ⟨call, _, ruling⟩
    · rw [same]
    · exact ruling.treasuryPayoutAddressUpdate_steps

theorem call_ruling {s next : World σ} (reachable : (escrowSystem chain).Reachable s)
    (step : (escrowSystem chain).step s (.escrow msg call) next) :
    Ruling s.toParameters msg s.toGovernance call next.toGovernance := by
  obtain ⟨history, run⟩ := reachable
  cases step_transacted (run_established run).unopened step with
  | called _ _ _ _ _ _ ruling => exact ruling

section Delay

variable {earlier later : EscrowHistory σ Op} {entry : Transition (World σ) (Action Op)}

theorem timelock_before (run : (escrowSystem chain).Run earlier s) (member : opening ∈ earlier) :
    opening.before.governanceTimelock = 24 * 3600 := by
  obtain ⟨_, _, _, before, _⟩ := run.cut member
  exact (run_established before).timelock

/-- The proposal was opened at `opening`, at least the timelock before `now`. -/
def Delayed (now : Nat) (opening : Transition (World σ) (Action Op)) : Prop :=
  opening.label.message.timestamp + 24 * 3600 ≤ now

/-- Only an oracle update opened while the oracle was disabled skips the delay. -/
theorem executeOracleUpdate_delayed
    (run : (escrowSystem chain).Run (later ++ entry :: earlier) final)
    (label : entry.label = .escrow msg (.executeOracleUpdate proposalId)) :
    ∃ opening ∈ earlier, (oracleUpdates chain).Opens opening proposalId
      (entry.before.oracleUpdate.proposals proposalId) (entry.before.oracleUpdate.expiresAt proposalId) ∧
      (opening.before.oracleActive = true → Delayed msg.timestamp opening) := by
  obtain ⟨before, step, _⟩ := run.split
  rw [label] at step
  obtain ⟨enactable, _⟩ := (call_ruling ⟨_, before⟩ step).of_executeOracleUpdate
  obtain ⟨opening, member, opens⟩ := (oracleUpdates chain).opens before enactable.live.known
  refine ⟨opening, member, opens, fun active => ?_⟩
  obtain ⟨_, _, _, eta⟩ := opens.admissible
  rw [active, if_pos rfl, timelock_before before member] at eta
  exact eta.ge.trans enactable.ready

private theorem executeAddAdmin_delayed
    (run : (escrowSystem chain).Run (later ++ entry :: earlier) final)
    (label : entry.label = .escrow msg (.executeAddAdmin proposalId)) :
    ∃ opening ∈ earlier, (adminAdds chain).Opens opening proposalId
      (entry.before.adminAdd.proposals proposalId) (entry.before.adminAdd.expiresAt proposalId) ∧
      Delayed msg.timestamp opening := by
  obtain ⟨before, step, _⟩ := run.split
  rw [label] at step
  have enactable := (call_ruling ⟨_, before⟩ step).of_executeAddAdmin
  obtain ⟨opening, member, opens⟩ := (adminAdds chain).opens before enactable.live.known
  refine ⟨opening, member, opens, ?_⟩
  obtain ⟨_, eta⟩ := opens.admissible
  rw [timelock_before before member] at eta
  exact eta.ge.trans enactable.ready

private theorem executeTreasuryPayoutAddressUpdate_delayed
    (run : (escrowSystem chain).Run (later ++ entry :: earlier) final)
    (label : entry.label = .escrow msg (.executeTreasuryPayoutAddressUpdate proposalId)) :
    ∃ opening ∈ earlier, (treasuryPayoutAddressUpdates chain).Opens opening proposalId
      (entry.before.treasuryPayoutAddressUpdate.proposals proposalId)
      (entry.before.treasuryPayoutAddressUpdate.expiresAt proposalId) ∧
      Delayed msg.timestamp opening := by
  obtain ⟨before, step, _⟩ := run.split
  rw [label] at step
  have enactable := (call_ruling ⟨_, before⟩ step).of_executeTreasuryPayoutAddressUpdate
  obtain ⟨opening, member, opens⟩ :=
    (treasuryPayoutAddressUpdates chain).opens before enactable.live.known
  refine ⟨opening, member, opens, ?_⟩
  obtain ⟨_, eta⟩ := opens.admissible
  rw [timelock_before before member] at eta
  exact eta.ge.trans enactable.ready

/-- Every executed proposal was opened before, and the timelock has passed since
then, unless it is an oracle update opened while the oracle was disabled. -/
theorem executions_delayed (run : (escrowSystem chain).Run (later ++ entry :: earlier) final) :
    (∀ msg proposalId, entry.label = .escrow msg (.executeOracleUpdate proposalId) →
      ∃ opening ∈ earlier, (oracleUpdates chain).Opens opening proposalId
        (entry.before.oracleUpdate.proposals proposalId)
        (entry.before.oracleUpdate.expiresAt proposalId) ∧
        (opening.before.oracleActive = true → Delayed msg.timestamp opening)) ∧
    (∀ msg proposalId, entry.label = .escrow msg (.executeAddAdmin proposalId) →
      ∃ opening ∈ earlier, (adminAdds chain).Opens opening proposalId
        (entry.before.adminAdd.proposals proposalId) (entry.before.adminAdd.expiresAt proposalId) ∧
        Delayed msg.timestamp opening) ∧
    (∀ msg proposalId, entry.label = .escrow msg (.executeTreasuryPayoutAddressUpdate proposalId) →
      ∃ opening ∈ earlier, (treasuryPayoutAddressUpdates chain).Opens opening proposalId
        (entry.before.treasuryPayoutAddressUpdate.proposals proposalId)
        (entry.before.treasuryPayoutAddressUpdate.expiresAt proposalId) ∧
        Delayed msg.timestamp opening) :=
  ⟨fun _ _ label => executeOracleUpdate_delayed run label,
    fun _ _ label => executeAddAdmin_delayed run label,
    fun _ _ label => executeTreasuryPayoutAddressUpdate_delayed run label⟩

end Delay

open Mock in
/-- Two fast-track updates are opened while the oracle is disabled; the first one
is executed. -/
def fastTracks : List (Action MockUSDC.Operation) :=
  [call admin1 10 .disableOracleEmergency, call admin1 11 (.proposeOracleUpdate supplier),
   call admin1 12 (.proposeOracleUpdate buyer), call admin2 13 (.approveOracleUpdate 0),
   call admin2 14 (.approveOracleUpdate 1), call admin1 15 (.executeOracleUpdate 0)]

open Mock in
private theorem fastTracks_outcome : ∃ s next,
    scenario (config [admin1, admin2] 1) fastTracks = some s ∧
      replay mockChain [call admin1 16 (.executeOracleUpdate 1)] s = some next ∧
      s.oracleActive = true ∧ (s.oracleUpdate.proposals 1).createdAt = 12 := by
  have outcome : ((scenario (config [admin1, admin2] 1) fastTracks).bind fun s =>
      (replay mockChain [call admin1 16 (.executeOracleUpdate 1)] s).map fun _ =>
        (s.oracleActive, (s.oracleUpdate.proposals 1).createdAt)) = some (true, 12) := by
    decide +kernel
  obtain ⟨s, reached, rest⟩ := Option.bind_eq_some_iff.mp outcome
  obtain ⟨next, executed, facts⟩ := Option.map_eq_some_iff.mp rest
  simp only [Prod.mk.injEq] at facts
  exact ⟨s, next, reached, executed, facts⟩

open Mock in
/-- Another admin is proposed and approved. -/
def adminAdded : List (Action MockUSDC.Operation) :=
  [call admin1 10 (.proposeAddAdmin buyer), call admin2 11 (.approveAddAdmin 0)]

open Mock in
/-- The second update was opened, although not a day before; a new admin was, and a day before. -/
theorem fastTracks_opened :
    (∃ s next, ∃ earlier : EscrowHistory MockUSDC MockUSDC.Operation,
      scenario (config [admin1, admin2] 1) fastTracks = some s ∧
      replay mockChain [call admin1 16 (.executeOracleUpdate 1)] s = some next ∧
      ∃ opening ∈ earlier, (oracleUpdates mockChain).Opens opening 1 (s.oracleUpdate.proposals 1)
        (s.oracleUpdate.expiresAt 1)) ∧
    ∃ s next, ∃ earlier : EscrowHistory MockUSDC MockUSDC.Operation,
      scenario (config [admin1, admin2] 1) adminAdded = some s ∧
      replay mockChain [call admin1 86410 (.executeAddAdmin 0)] s = some next ∧
      ∃ opening ∈ earlier, (adminAdds mockChain).Opens opening 0 (s.adminAdd.proposals 0) (s.adminAdd.expiresAt 0) ∧
        Delayed 86410 opening := by
  constructor
  · obtain ⟨s, next, reached, executes, _⟩ := fastTracks_outcome
    obtain ⟨earlier, run⟩ := scenario_run reached
    have whole : (escrowSystem mockChain).Run ([] ++ ⟨s, _, next⟩ :: earlier) next :=
      run.extend (.single (replay_single executes))
    obtain ⟨updates, _, _⟩ := executions_delayed whole
    obtain ⟨opening, member, opens, _⟩ := updates _ _ rfl
    exact ⟨s, next, earlier, reached, executes, opening, member, opens⟩
  · have outcome : ((scenario (config [admin1, admin2] 1) adminAdded).bind fun s =>
        (replay mockChain [call admin1 86410 (.executeAddAdmin 0)] s).map fun next => next.isAdmin buyer) = some true := by
      decide +kernel
    obtain ⟨s, reached, rest⟩ := Option.bind_eq_some_iff.mp outcome
    obtain ⟨next, executes, _⟩ := Option.map_eq_some_iff.mp rest
    obtain ⟨earlier, run⟩ := scenario_run reached
    have whole : (escrowSystem mockChain).Run ([] ++ ⟨s, _, next⟩ :: earlier) next :=
      run.extend (.single (replay_single executes))
    obtain ⟨_, additions, _⟩ := executions_delayed whole
    obtain ⟨opening, member, opens, delayed⟩ := additions _ _ rfl
    exact ⟨s, next, earlier, reached, executes, opening, member, opens, delayed⟩

open Mock in
/-- It is executed four seconds later, while the oracle is active. -/
theorem fastTracks_undelayed : ¬ ∀ later entry earlier final msg proposalId,
    (escrowSystem mockChain).Run (later ++ entry :: earlier) final →
    entry.label = .escrow msg (.executeOracleUpdate proposalId) → entry.before.oracleActive = true →
    (entry.before.oracleUpdate.proposals proposalId).createdAt + 24 * 3600 ≤ msg.timestamp := by
  obtain ⟨s, next, reached, executes, active, createdAt⟩ := fastTracks_outcome
  obtain ⟨earlier, run⟩ := scenario_run reached
  have whole : (escrowSystem mockChain).Run ([] ++ ⟨s, _, next⟩ :: earlier) next :=
    run.extend (.single (replay_single executes))
  intro always
  have delayed := always _ _ _ _ _ _ whole rfl active
  rw [createdAt] at delayed
  simp at delayed

end Agroasys.Escrow
