import Agroasys.Escrow.Timelock

namespace Agroasys.Escrow

open Function Agroasys.Foundation

variable {σ Op : Type} {chain : Chain σ Op}

/-- Every recorded update can still be approved and executed before it expires. -/
def Serviceable (s : World σ) : Prop :=
  ∀ proposalId, proposalId < s.oracleUpdate.counter →
    0 < (s.oracleUpdate.proposals proposalId).createdAt ∧
    (s.oracleUpdate.proposals proposalId).matter.eta ≤ s.oracleUpdate.expiresAt proposalId ∧
    s.governanceApprovals ≤ s.admins.length

private theorem Transacted.serviceable {s next : World σ} (established : Established s)
    (transacted : Transacted chain s action next) (serviceable : Serviceable s) : Serviceable next := by
  cases transacted with
  | called msg call clock _ _ parameters ruling =>
    have progress := ruling.oracleUpdate_steps.progress
    obtain ⟨_, _, _, grown⟩ := ruling.admins established.admins established.distinct
    intro proposalId known
    rw [parameters]
    rcases Nat.lt_or_ge proposalId s.oracleUpdate.counter with old | new
    · obtain ⟨matter, createdAt, _, expiry⟩ := progress.settled proposalId old
      obtain ⟨initialized, executable, enough⟩ := serviceable proposalId old
      rw [matter, createdAt, expiry]
      exact ⟨initialized, executable, enough.trans grown⟩
    · obtain ⟨_, createdAt, _, expiry, _, enough, _, eta⟩ := progress.created proposalId new known
      have genesis := established.clock
      refine ⟨by omega, ?_, enough.trans grown⟩
      rw [eta, expiry, established.timelock]
      simp only [Governance.oracleUpdateRules, governanceProposalTtl]
      split <;> omega
  | foreign => exact serviceable

private theorem run_serviceable (run : (escrowSystem chain).Run history final) : Serviceable final := by
  apply run_invariant run
  · intro config origin deployed proposalId known
    have empty := (opened_books deployed).1
    simp [empty] at known
  · intro s action next established transacted serviceable
    exact transacted.serviceable established serviceable

/-- Voters are found among the admins as long as a quorum is missing. -/
theorem undecided_admin {Matter : Type} {s : World σ} (established : Established s)
    {book : ProposalBook Address Matter} (tallied : book.Tallied)
    (short : (book.proposals proposalId).approvalCount < s.governanceApprovals)
    (enough : s.governanceApprovals ≤ s.admins.length) :
    ∃ admin, s.isAdmin admin = true ∧ book.hasApproved proposalId admin = false := by
  rw [← List.toFinset_card_of_nodup established.distinct] at enough
  obtain ⟨admin, member, fresh⟩ := tallied.undecided short enough
  exact ⟨admin, (established.admins admin).mpr (List.mem_toFinset.mp member), fresh⟩

private theorem approveOracleUpdate_ok (msg : Message) {s : World σ} (admin : s.isAdmin msg.sender = true)
    (initialized : 0 < (s.oracleUpdate.proposals proposalId).createdAt)
    (live : s.oracleUpdate.Live proposalId msg.timestamp)
    (fresh : s.oracleUpdate.hasApproved proposalId msg.sender = false) :
    ∃ events, approveOracleUpdate msg proposalId s = .ok { s with
      oracleUpdate := s.oracleUpdate.approve proposalId msg.sender
      events := events } := by
  simp only [approveOracleUpdate, onlyAdmin, bind_eq_ok, require_eq_ok, exists_const,
    approveProposal_eq_ok, pure_eq_ok]
  exact ⟨_, admin, _, ⟨initialized, live, fresh, rfl⟩, rfl⟩

private theorem executeOracleUpdate_ok (msg : Message) {s : World σ} (admin : s.isAdmin msg.sender = true)
    (initialized : 0 < (s.oracleUpdate.proposals proposalId).createdAt)
    (live : s.oracleUpdate.Live proposalId msg.timestamp)
    (quorum : s.governanceApprovals ≤ (s.oracleUpdate.proposals proposalId).approvalCount)
    (ready : (s.oracleUpdate.proposals proposalId).matter.eta ≤ msg.timestamp) :
    ∃ events, executeOracleUpdate msg proposalId s = .ok { s with
      oracleUpdate := s.oracleUpdate.execute proposalId
      oracleAddress := (s.oracleUpdate.proposals proposalId).matter.newOracle
      oracleActive := true
      events := events } := by
  simp only [executeOracleUpdate, onlyAdmin, bind_eq_ok, require_eq_ok, exists_const,
    requireExecutable_eq_ok, pure_eq_ok]
  exact ⟨_, admin, ⟨initialized, live, quorum, ready⟩, rfl⟩

def UpdatesOracle (entry : Transition (World σ) (Action Op)) : Prop :=
  ∃ msg proposalId, entry.label = .escrow msg (.executeOracleUpdate proposalId)

def ByAdmin (isAdmin : Address → Bool) (entry : Transition (World σ) (Action Op)) : Prop :=
  ∃ msg call, entry.label = .escrow msg call ∧ isAdmin msg.sender = true

/-- A live update can be approved by the missing admins and executed, all at one
time, and this changes nothing but the oracle. -/
theorem oracleUpdate_completes (chain : Chain σ Op) {s : World σ} (missing : Nat) (established : Established s)
    (tallied : s.oracleUpdate.Tallied)
    (initialized : 0 < (s.oracleUpdate.proposals proposalId).createdAt)
    (live : s.oracleUpdate.Live proposalId time) (clock : s.now ≤ time)
    (ready : (s.oracleUpdate.proposals proposalId).matter.eta ≤ time)
    (enough : s.governanceApprovals ≤ s.admins.length)
    (count : s.governanceApprovals ≤
      (s.oracleUpdate.proposals proposalId).approvalCount + missing) :
    ∃ entry history book events final, Path (escrowSystem chain) s (entry :: history) final ∧
      UpdatesOracle entry ∧ (∀ other ∈ history, ¬ UpdatesOracle other) ∧
      (∀ other ∈ entry :: history, ByAdmin s.isAdmin other) ∧
      final = { s with
        oracleUpdate := book
        oracleAddress := (s.oracleUpdate.proposals proposalId).matter.newOracle
        oracleActive := true
        events := events
        now := time } := by
  by_cases quorum : s.governanceApprovals ≤ (s.oracleUpdate.proposals proposalId).approvalCount
  · have two := s.two_le_governanceApprovals
    obtain ⟨admin, member⟩ := List.exists_mem_of_length_pos (by omega : 0 < s.admins.length)
    have eligible := (established.admins admin).mpr member
    obtain ⟨events, success⟩ := executeOracleUpdate_ok ⟨admin, time⟩ eligible initialized
      live quorum ready
    have executed : execute chain ⟨admin, time⟩ (.executeOracleUpdate proposalId) s = .ok _ := success
    refine ⟨_, [], _, events, _, .single (step_escrow clock executed), ⟨_, _, rfl⟩, ?_, ?_, rfl⟩
    · simp
    · intro other only
      rw [List.mem_singleton] at only
      subst only
      exact ⟨_, _, rfl, eligible⟩
  · cases missing with
    | zero => exact absurd count quorum
    | succ missing =>
      obtain ⟨admin, eligible, fresh⟩ :=
        undecided_admin established tallied (Nat.lt_of_not_le quorum) enough
      obtain ⟨events, success⟩ := approveOracleUpdate_ok ⟨admin, time⟩ eligible initialized
        live fresh
      have executed : execute chain ⟨admin, time⟩ (.approveOracleUpdate proposalId) s = .ok _ := success
      have step := step_escrow clock executed
      have approval : ProposalBook.Step (s.oracleUpdateRules s.toParameters) time admin s.oracleUpdate
          (s.oracleUpdate.approve proposalId admin) :=
        .moved (.approved proposalId eligible live fresh)
      obtain ⟨entry, history, book, events, final, path, updates, before, admins, rfl⟩ :=
        oracleUpdate_completes chain missing ((step_transacted established.unopened step).established established)
          (approval.tallied tallied) (by simpa using initialized) (live.approve admin) le_rfl
          (by simpa using ready) enough (by simp; omega)
      have whole := (Path.single step).append path
      rw [List.cons_append] at whole
      refine ⟨entry, _, book, events, _, whole, updates, ?_, ?_, by simp⟩
      · simp only [List.forall_mem_append, List.forall_mem_singleton]
        exact ⟨before, by simp [UpdatesOracle]⟩
      · simp only [← List.cons_append, List.forall_mem_append, List.forall_mem_singleton]
        exact ⟨admins, ⟨_, _, rfl, eligible⟩⟩

/-- The first update after `s` installs an address other than `address`, whatever
else happens. -/
def Retired (chain : Chain σ Op) (s : World σ) (address : Address) : Prop :=
  ∀ history entry final, Path (escrowSystem chain) s (entry :: history) final → UpdatesOracle entry →
    (∀ other ∈ history, ¬ UpdatesOracle other) → entry.after.oracleAddress ≠ address

/-- No live update would install the address of the current oracle. -/
structure Unrecalled (address : Address) (s : World σ) : Prop where
  current : s.oracleAddress = address
  pending : ∀ proposalId, s.oracleUpdate.Live proposalId s.now →
    (s.oracleUpdate.proposals proposalId).matter.newOracle ≠ address

private theorem Unrecalled.step {s next : World σ} (unrecalled : Unrecalled address s)
    (reachable : (escrowSystem chain).Reachable s) (step : (escrowSystem chain).step s action next)
    (other : ¬ UpdatesOracle ⟨s, action, next⟩) : Unrecalled address next := by
  have progress : ProposalBook.Progress (s.oracleUpdateRules s.toParameters) action.message.timestamp
      action.message.sender s.oracleUpdate next.oracleUpdate :=
    (oracleUpdates chain).progress reachable step
  obtain ⟨clock, now, _⟩ := step_cases step
  constructor
  · rw [← unrecalled.current]
    rcases step_ruled reachable step with same | ⟨call, label, ruling⟩
    · rw [same]
    · generalize next.toGovernance = g at ruling ⊢
      cases ruling with
      | oracleUpdated proposalId => exact absurd ⟨_, _, label⟩ other
      | _ => rfl
  · intro proposalId live
    rcases Nat.lt_or_ge proposalId s.oracleUpdate.counter with old | new
    · have earlier := progress.live_before old live (now ▸ clock)
      rw [(progress.settled proposalId old).1]
      exact unrecalled.pending proposalId earlier
    · obtain ⟨_, _, _, _, different, _⟩ := progress.created proposalId new live.known
      rw [← unrecalled.current]
      exact different

private theorem Unrecalled.retired {s : World σ} (unrecalled : Unrecalled address s)
    (reachable : (escrowSystem chain).Reachable s) : Retired chain s address := by
  intro history entry final path updates before
  cases path with
  | @next _ middle label _ path taken =>
    have kept : (escrowSystem chain).Reachable middle ∧ Unrecalled address middle := by
      clear updates taken
      induction path with
      | start => exact ⟨reachable, unrecalled⟩
      | next _ taken ih =>
        simp only [List.forall_mem_cons] at before
        obtain ⟨reached, held⟩ := ih before.2
        exact ⟨reached.step taken, held.step reached taken before.1⟩
    obtain ⟨reached, held⟩ := kept
    obtain ⟨msg, proposalId, rfl⟩ := updates
    obtain ⟨enactable, installed, _⟩ := (call_ruling reached taken).of_executeOracleUpdate
    obtain ⟨clock, _⟩ := step_cases taken
    have live := enactable.live
    rw [installed]
    exact held.pending proposalId ⟨live.known, live.pending, live.standing, clock.trans live.unexpired⟩

/-- After an emergency disable the oracle comes back as it was in some
continuation exactly when a live update names it at that moment. -/
theorem disabled_oracle_retired_iff (run : (escrowSystem chain).Run history s)
    (step : (escrowSystem chain).step s (.escrow msg .disableOracleEmergency) disabled) :
    Retired chain disabled s.oracleAddress ↔
      ∀ proposalId, s.oracleUpdate.Live proposalId msg.timestamp →
        (s.oracleUpdate.proposals proposalId).matter.newOracle ≠ s.oracleAddress := by
  have reachable : (escrowSystem chain).Reachable s := ⟨history, run⟩
  have frame : disabled.oracleUpdate = s.oracleUpdate ∧ disabled.oracleAddress = s.oracleAddress :=
    (call_ruling reachable step).of_disableOracleEmergency
  obtain ⟨book, current⟩ := frame
  obtain ⟨_, now, _⟩ := step_cases step
  constructor
  · intro retired proposalId live named
    obtain ⟨later, run⟩ := reachable.step step
    rw [← book] at live named
    obtain ⟨initialized, executable, enough⟩ := run_serviceable run proposalId live.known
    have tallied : disabled.oracleUpdate.Tallied := (oracleUpdates chain).tallied ⟨later, run⟩
    have open_ : disabled.oracleUpdate.Live proposalId
        (max msg.timestamp (disabled.oracleUpdate.proposals proposalId).matter.eta) :=
      ⟨live.known, live.pending, live.standing, max_le live.unexpired executable⟩
    obtain ⟨entry, history, _, _, final, path, updates, before, _, rfl⟩ :=
      oracleUpdate_completes chain disabled.governanceApprovals (run_established run) tallied
        initialized open_ (now ▸ le_max_left ..) (le_max_right ..) enough (Nat.le_add_left ..)
    cases path with
    | next path taken => exact retired history _ _ (path.next taken) updates before named
  · intro pending
    refine Unrecalled.retired ⟨current, ?_⟩ (reachable.step step)
    rw [book, now]
    exact pending

open Mock in
/-- A disabled oracle stays out while the only live update names another address. -/
theorem deployed_oracle_retired : ∃ s disabled,
    scenario (config [admin1, admin2] 1) [call admin1 9 (.proposeOracleUpdate supplier)] = some s ∧
      replay mockChain [call admin1 10 .disableOracleEmergency] s = some disabled ∧
      s.oracleUpdate.Live 0 10 ∧ Retired mockChain disabled s.oracleAddress := by
  have outcome : ((scenario (config [admin1, admin2] 1) [call admin1 9 (.proposeOracleUpdate supplier)]).bind fun s =>
      (replay mockChain [call admin1 10 .disableOracleEmergency] s).map fun _ =>
        (s.oracleUpdate.counter, (s.oracleUpdate.proposals 0).matter.newOracle, s.oracleAddress,
          (s.oracleUpdate.proposals 0).executed, s.oracleUpdate.cancelled 0, s.oracleUpdate.expiresAt 0)) =
        some (1, supplier, oracle, false, false, 604809) := by
    decide +kernel
  obtain ⟨s, reached, rest⟩ := Option.bind_eq_some_iff.mp outcome
  obtain ⟨disabled, disables, facts⟩ := Option.map_eq_some_iff.mp rest
  simp only [Prod.mk.injEq] at facts
  obtain ⟨counter, named, current, pending, standing, expiry⟩ := facts
  obtain ⟨history, run⟩ := scenario_run reached
  have run : (escrowSystem mockChain).Run history s := run
  have live : s.oracleUpdate.Live 0 10 := ⟨by omega, pending, standing, by omega⟩
  refine ⟨s, disabled, reached, disables, live,
    (disabled_oracle_retired_iff run (replay_single disables)).mpr fun proposalId live => ?_⟩
  have known := live.known
  obtain rfl : proposalId = 0 := by omega
  rw [named, current]
  decide

open Mock in
/-- Two updates to the same address; one of them is executed. -/
def twinUpdates : List (Action MockUSDC.Operation) :=
  [call admin1 10 (.proposeOracleUpdate supplier), call admin1 11 (.proposeOracleUpdate supplier),
   call admin2 12 (.approveOracleUpdate 0), call admin2 13 (.approveOracleUpdate 1),
   call admin1 86420 (.executeOracleUpdate 0)]

open Mock in
theorem twinUpdates_reinstate : ¬ ∀ history s msg disabled, (escrowSystem mockChain).Run history s →
    (escrowSystem mockChain).step s (.escrow msg .disableOracleEmergency) disabled →
    Retired mockChain disabled s.oracleAddress := by
  have outcome : ((scenario (config [admin1, admin2] 1) twinUpdates).bind fun s =>
      (replay mockChain [call admin1 86430 .disableOracleEmergency] s).bind fun disabled =>
        (replay mockChain [call admin1 86440 (.executeOracleUpdate 1)] disabled).map fun final =>
          (s.oracleAddress, final.oracleAddress)) = some (supplier, supplier) := by
    decide +kernel
  obtain ⟨s, reached, rest⟩ := Option.bind_eq_some_iff.mp outcome
  obtain ⟨disabled, disables, rest⟩ := Option.bind_eq_some_iff.mp rest
  obtain ⟨final, executes, addresses⟩ := Option.map_eq_some_iff.mp rest
  obtain ⟨history, run⟩ := scenario_run reached
  simp only [Prod.mk.injEq] at addresses
  intro always
  have retired := always history s _ disabled run (replay_single disables)
  have different := retired [] _ final (.single (replay_single executes)) ⟨_, 1, rfl⟩ (by simp)
  exact different (addresses.2.trans addresses.1.symm)

end Agroasys.Escrow
