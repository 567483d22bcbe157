import Agroasys.Escrow.DisputeSlot
import Agroasys.Escrow.Timelock

namespace Agroasys.Escrow

open Function Finset Agroasys.Foundation

variable {σ Op : Type} {chain : Chain σ Op}

/-- The admins who have approved the open unpause proposal. -/
def Governance.unpauseApprovers (g : Governance) : Finset Address :=
  univ.filter fun account => g.isAdmin account = true ∧ g.unpauseHasApproved account = true

/-- Approvals are kept exactly for the open unpause proposal, while the protocol
is paused. -/
structure UnpauseSlot (g : Governance) : Prop where
  active : g.hasActiveUnpauseProposal = true → g.paused = true ∧
    g.unpauseProposal.approvalCount = g.unpauseApprovers.card
  inactive : g.hasActiveUnpauseProposal = false → ∀ admin, g.unpauseHasApproved admin = false
  admins : ∀ account, g.unpauseHasApproved account = true → g.isAdmin account = true

private theorem clearApprovals_eq_false {g : Governance}
    (admins : ∀ account, g.isAdmin account = true ↔ account ∈ g.admins)
    (approvers : ∀ account, approved account = true → g.isAdmin account = true) (account : Address) :
    clearApprovals g.admins approved account = false := by
  rw [clearApprovals_apply]
  split
  · rfl
  · rename_i absent
    by_contra flagged
    exact absent ((admins account).mp (approvers account (by simpa using flagged)))

private theorem UnpauseSlot.standing {g : Governance} (slot : UnpauseSlot g)
    (admins : ∀ account, g.isAdmin account = true ↔ account ∈ g.admins) (account : Address) :
    g.standingApprovals account = false := by
  unfold Governance.standingApprovals
  split
  · exact clearApprovals_eq_false admins slot.admins account
  · rename_i closed
    exact slot.inactive (by simpa using closed) account

private theorem unpauseApprovers_single {g : Governance} (admin : g.isAdmin voter = true)
    (standing : ∀ account, approved account = false) :
    { g with unpauseHasApproved := update approved voter true }.unpauseApprovers = {voter} := by
  ext account
  by_cases same : account = voter
  · subst same
    simp [Governance.unpauseApprovers, admin]
  · simp [Governance.unpauseApprovers, same, standing]

private theorem unpauseApprovers_insert {g : Governance} (admin : g.isAdmin voter = true) :
    { g with unpauseHasApproved := update g.unpauseHasApproved voter true }.unpauseApprovers =
      insert voter g.unpauseApprovers := by
  ext account
  by_cases same : account = voter
  · subst same
    simp [Governance.unpauseApprovers, admin]
  · simp [Governance.unpauseApprovers, same]

private theorem unpauseApprovers_added {g : Governance} (slot : UnpauseSlot g) (new : g.isAdmin admin = false) :
    { g with isAdmin := update g.isAdmin admin true }.unpauseApprovers = g.unpauseApprovers := by
  ext account
  by_cases same : account = admin
  · subst same
    have unflagged : g.unpauseHasApproved account = false := by
      by_contra flagged
      have already := slot.admins account (by simpa using flagged)
      simp [new] at already
    simp [Governance.unpauseApprovers, unflagged]
  · simp [Governance.unpauseApprovers, same]

private theorem Ruling.unpauseSlot (ruling : Ruling p msg g call next)
    (admins : ∀ account, g.isAdmin account = true ↔ account ∈ g.admins) (slot : UnpauseSlot g) :
    UnpauseSlot next := by
  cases ruling with
  | paused => exact ⟨fun active => ⟨rfl, (slot.active active).2⟩, slot.inactive, slot.admins⟩
  | oracleDisabled => exact ⟨fun active => ⟨rfl, (slot.active active).2⟩, slot.inactive, slot.admins⟩
  | unpauseProposed admin paused _ =>
    have standing := slot.standing admins
    refine ⟨fun _ => ⟨paused, ?_⟩, (fun inactive => by cases inactive), fun account flagged => ?_⟩
    · have single := unpauseApprovers_single (g := g) admin standing
      simp only [Governance.unpauseApprovers] at single ⊢
      rw [single, card_singleton]
    · by_cases same : account = msg.sender
      · subst same
        exact admin
      · simp [same, standing] at flagged
  | unpauseApproved admin approves _ =>
    refine ⟨fun _ => ⟨approves.paused, ?_⟩, fun inactive => ?_, fun account flagged => ?_⟩
    · have inserted := unpauseApprovers_insert (g := g) admin
      have absent : msg.sender ∉ g.unpauseApprovers := by
        simp [Governance.unpauseApprovers, approves.fresh]
      simp only [Governance.unpauseApprovers] at inserted absent ⊢
      rw [inserted, card_insert_of_notMem absent, (slot.active approves.active).2]
      rfl
    · simp [approves.active] at inactive
    · by_cases same : account = msg.sender
      · subst same
        exact admin
      · exact slot.admins account (by simpa [same] using flagged)
  | unpaused admin _ _ =>
    have cleared : ∀ account, clearApprovals g.admins (update g.unpauseHasApproved msg.sender true)
        account = false := by
      refine clearApprovals_eq_false admins fun account flagged => ?_
      by_cases same : account = msg.sender
      · subst same
        exact admin
      · exact slot.admins account (by simpa [same] using flagged)
    refine ⟨(fun active => by cases active), fun _ => cleared, fun account flagged => ?_⟩
    simp [cleared] at flagged
  | unpauseCancelled =>
    have cleared := clearApprovals_eq_false admins slot.admins
    refine ⟨(fun active => by cases active), fun _ => cleared, fun account flagged => ?_⟩
    simp [cleared] at flagged
  | adminAdded proposalId _ new =>
    refine ⟨fun active => ⟨(slot.active active).1, ?_⟩, slot.inactive, fun account flagged => ?_⟩
    · have same := unpauseApprovers_added slot new
      simp only [Governance.unpauseApprovers] at same ⊢
      rw [same]
      exact (slot.active active).2
    · by_cases same : account = (g.adminAdd.proposals proposalId).matter.newAdmin
      · simp [same]
      · simpa [same] using slot.admins account flagged
  | _ => exact ⟨slot.active, slot.inactive, slot.admins⟩

theorem run_unpauseSlot (run : (escrowSystem chain).Run history s) : UnpauseSlot s.toGovernance := by
  apply run_invariant run
  · intro config origin deployed
    obtain ⟨_, _, rfl⟩ := deployed.world
    exact ⟨(fun active => by cases active), fun _ _ => rfl, (fun _ flagged => by cases flagged)⟩
  · intro s action next established transacted slot
    cases transacted with
    | called _ _ _ _ _ _ ruling => exact ruling.unpauseSlot established.admins slot
    | foreign => exact slot

/-- The sender of a call that votes for unpausing. -/
def Action.unpauseVoter : Action Op → Option Address
  | .escrow msg .proposeUnpause | .escrow msg .approveUnpause => some msg.sender
  | _ => none

/-- Calls that replace or withdraw the open unpause proposal. -/
def Action.renewsUnpause : Action Op → Bool
  | .escrow _ .proposeUnpause | .escrow _ .cancelUnpauseProposal => true
  | _ => false

def unpauseVoters (history : EscrowHistory σ Op) : Finset Address :=
  (history.filterMap fun entry => entry.label.unpauseVoter).toFinset

/-- The history ends in the life of one unpause proposal, for which `voters` have
voted. -/
def UnpauseRound (history : EscrowHistory σ Op) (voters : Finset Address) : Prop :=
  ∃ round opening older, history = round ++ opening :: older ∧
    (∃ msg, opening.label = .escrow msg .proposeUnpause) ∧
    (∀ entry ∈ round, entry.label.renewsUnpause = false) ∧
    voters = unpauseVoters (round ++ [opening])

private theorem UnpauseRound.opened (history : EscrowHistory σ Op) (s next : World σ) (msg : Message) :
    UnpauseRound (⟨s, .escrow msg .proposeUnpause, next⟩ :: history) {msg.sender} :=
  ⟨[], _, history, rfl, ⟨msg, rfl⟩, by simp, by simp [unpauseVoters, Action.unpauseVoter]⟩

private theorem UnpauseRound.idle {history : EscrowHistory σ Op} {s next : World σ}
    (round : UnpauseRound history voters) (silent : action.unpauseVoter = none)
    (kept : action.renewsUnpause = false) : UnpauseRound (⟨s, action, next⟩ :: history) voters := by
  obtain ⟨round, opening, older, rfl, opens, unrenewed, rfl⟩ := round
  refine ⟨⟨s, action, next⟩ :: round, opening, older, rfl, opens, ?_, by simp [unpauseVoters, silent]⟩
  simpa [kept] using unrenewed

private theorem UnpauseRound.vote {history : EscrowHistory σ Op} (round : UnpauseRound history voters)
    (s next : World σ) (msg : Message) :
    UnpauseRound (⟨s, .escrow msg .approveUnpause, next⟩ :: history) (insert msg.sender voters) := by
  obtain ⟨round, opening, older, rfl, opens, unrenewed, rfl⟩ := round
  refine ⟨⟨s, _, next⟩ :: round, opening, older, rfl, opens, ?_, ?_⟩
  · simpa [Action.renewsUnpause] using unrenewed
  · simp [unpauseVoters, Action.unpauseVoter]

private theorem Call.silent {call : Call} (other : call.settles = true ∨ call.deliberates = true) :
    (Action.escrow msg call : Action Op).unpauseVoter = none ∧
      (Action.escrow msg call : Action Op).renewsUnpause = false := by
  cases call with
  | proposeUnpause | approveUnpause | cancelUnpauseProposal =>
    simp [Call.settles, Call.deliberates] at other
  | _ => exact ⟨rfl, rfl⟩

/-- The recorded approvals are the votes for the open proposal. -/
theorem run_unpauseRound (run : (escrowSystem chain).Run history s)
    (active : s.hasActiveUnpauseProposal = true) : UnpauseRound history s.unpauseApprovers := by
  revert active
  apply run.history_invariant (P := fun history s => s.hasActiveUnpauseProposal = true →
    UnpauseRound history s.unpauseApprovers)
  · rintro origin ⟨config, deployed⟩ active
    obtain ⟨_, _, rfl⟩ := deployed.world
    cases active
  · intro earlier s action next run step ih active
    have established := run_established run
    have slot := run_unpauseSlot run
    cases step_transacted established.unopened step with
    | foreign => exact (ih active).idle rfl rfl
    | called msg call _ _ _ _ ruling =>
      generalize next.toGovernance = g at ruling active ⊢
      cases ruling with
      | kept settles =>
        obtain ⟨silent, unrenewed⟩ := Call.silent (.inl settles)
        exact (ih active).idle silent unrenewed
      | oracleUpdateMoved deliberates | adminAddMoved deliberates
      | treasuryPayoutAddressUpdateMoved deliberates =>
        obtain ⟨silent, unrenewed⟩ := Call.silent (.inr deliberates)
        exact (ih active).idle silent unrenewed
      | unpauseProposed admin _ _ =>
        have single := unpauseApprovers_single admin (slot.standing established.admins)
        have round := UnpauseRound.opened earlier s next msg
        rw [← single] at round
        exact round
      | unpauseApproved admin approves _ =>
        have inserted := unpauseApprovers_insert admin
        have round := (ih approves.active).vote s next msg
        rw [← inserted] at round
        exact round
      | unpaused | unpauseCancelled => cases active
      | adminAdded proposalId _ new =>
        rw [← unpauseApprovers_added slot new] at ih
        exact (ih active).idle rfl rfl
      | _ => exact (ih active).idle rfl rfl

private theorem unpauseVoter_admin {s next : World σ} (reachable : (escrowSystem chain).Reachable s)
    (step : (escrowSystem chain).step s action next) (votes : action.unpauseVoter = some voter) :
    s.isAdmin voter = true := by
  obtain ⟨history, run⟩ := reachable
  cases step_transacted (run_established run).unopened step with
  | foreign => cases votes
  | called msg call _ _ _ _ ruling =>
    generalize next.toGovernance = g at ruling
    cases ruling with
    | unpauseProposed admin | unpauseApproved admin | unpaused admin =>
      cases votes
      exact admin
    | kept settles =>
      rw [(Call.silent (.inl settles)).1] at votes
      cases votes
    | oracleUpdateMoved deliberates | adminAddMoved deliberates
    | treasuryPayoutAddressUpdateMoved deliberates =>
      rw [(Call.silent (.inr deliberates)).1] at votes
      cases votes
    | _ => cases votes

/-- The step completes the quorum of one unpause proposal: since it was opened it
was neither replaced nor withdrawn, and enough distinct voters, admins when they
voted, have voted for it. -/
structure CompletesUnpause (entry : Transition (World σ) (Action Op)) (earlier : EscrowHistory σ Op) :
    Prop where
  approval : ∃ msg, entry.label = .escrow msg .approveUnpause
  quorum : ∃ voters, UnpauseRound (entry :: earlier) voters ∧
    entry.before.governanceApprovals ≤ voters.card
  admins : ∀ vote ∈ entry :: earlier, ∀ voter, vote.label.unpauseVoter = some voter →
    vote.before.isAdmin voter = true

private theorem unpaused_by_quorum (run : (escrowSystem chain).Run (later ++ entry :: earlier) final)
    (paused : entry.before.paused = true) (unpaused : entry.after.paused = false) :
    CompletesUnpause entry earlier := by
  obtain ⟨before, step, after⟩ := run.split
  have established := run_established before
  have slot := run_unpauseSlot before
  have admins : ∀ vote ∈ entry :: earlier, ∀ voter, vote.label.unpauseVoter = some voter →
      vote.before.isAdmin voter = true := by
    intro vote member voter votes
    rcases List.mem_cons.mp member with same | member
    · subst same
      exact unpauseVoter_admin ⟨_, before⟩ step votes
    · obtain ⟨_, _, _, earlier, taken, _⟩ := before.cut member
      exact unpauseVoter_admin ⟨_, earlier⟩ taken votes
  obtain ⟨s, action, next⟩ := entry
  dsimp only at paused unpaused step established slot before
  cases step_transacted established.unopened step with
  | foreign => simp [paused] at unpaused
  | called msg call _ _ _ _ ruling =>
    generalize next.toGovernance = g at ruling unpaused
    cases ruling with
    | unpaused admin approves quorum =>
      have round := (run_unpauseRound before approves.active).vote s next msg
      have absent : msg.sender ∉ s.unpauseApprovers := by
        simp [Governance.unpauseApprovers, approves.fresh]
      refine ⟨⟨msg, rfl⟩, ⟨_, round, ?_⟩, admins⟩
      rw [card_insert_of_notMem absent, ← (slot.active approves.active).2]
      exact quorum
    | paused | oracleDisabled => cases unpaused
    | _ => simp [paused] at unpaused

/-- Every multi-admin decision is taken by a quorum of distinct admins. -/
theorem quorum_integrity (run : (escrowSystem chain).Run history s) :
    (disputes chain).Regular history s ∧ (oracleUpdates chain).Regular history s ∧
      (adminAdds chain).Regular history s ∧ (treasuryPayoutAddressUpdates chain).Regular history s ∧
      UnpauseSlot s.toGovernance ∧
      ∀ later entry earlier, history = later ++ entry :: earlier → entry.before.paused = true →
        entry.after.paused = false → CompletesUnpause entry earlier := by
  refine ⟨(disputes chain).regular run, (oracleUpdates chain).regular run,
    (adminAdds chain).regular run, (treasuryPayoutAddressUpdates chain).regular run,
    run_unpauseSlot run, ?_⟩
  rintro later entry earlier rfl paused unpaused
  exact unpaused_by_quorum run paused unpaused

open Mock in
/-- The first proposal is replaced, then two admins approve the second one. -/
theorem replaced_unpause_quorum : ∃ s next earlier,
    scenario (config [admin1, admin2] 1) [call admin1 1 .pause, call admin1 2 .proposeUnpause,
      call admin2 3 .proposeUnpause] = some s ∧
      replay mockChain [call admin1 4 .approveUnpause] s = some next ∧
      CompletesUnpause ⟨s, call admin1 4 .approveUnpause, next⟩ earlier := by
  have outcome : ((scenario (config [admin1, admin2] 1) [call admin1 1 .pause,
      call admin1 2 .proposeUnpause, call admin2 3 .proposeUnpause]).bind fun s =>
        (replay mockChain [call admin1 4 .approveUnpause] s).map fun next =>
          (s.paused, next.paused)) = some (true, false) := by
    decide +kernel
  obtain ⟨s, reached, rest⟩ := Option.bind_eq_some_iff.mp outcome
  obtain ⟨next, approves, switches⟩ := Option.map_eq_some_iff.mp rest
  obtain ⟨earlier, run⟩ := scenario_run reached
  simp only [Prod.mk.injEq] at switches
  obtain ⟨_, _, _, _, _, unpauses⟩ :=
    quorum_integrity (run.extend (.single (replay_single approves)))
  exact ⟨s, next, earlier, reached, approves, unpauses [] _ earlier rfl switches.1 switches.2⟩

end Agroasys.Escrow
