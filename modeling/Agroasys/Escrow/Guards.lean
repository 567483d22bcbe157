import Agroasys.Escrow.Lifecycle

namespace Agroasys.Escrow

open Function Agroasys.Foundation

variable {σ Op : Type} {chain : Chain σ Op} {s : World σ} {msg : Message}

/-- The call does not revert. -/
def Accepts (chain : Chain σ Op) (msg : Message) (call : Call) (s : World σ) : Prop :=
  ∃ result, execute chain msg call s = .ok result

section Standing

/-- An open unpause proposal is not executed. -/
theorem run_pendingUnpause (run : (escrowSystem chain).Run history s) :
    s.hasActiveUnpauseProposal = true → s.unpauseProposal.executed = false := by
  apply run_invariant run
  · intro config origin deployed active
    obtain ⟨_, _, rfl⟩ := deployed.world
    cases active
  · intro s action next established transacted pending
    cases transacted with
    | foreign => exact pending
    | called _ _ _ _ _ _ ruling =>
      generalize next.toGovernance = governance at ruling
      cases ruling with
      | unpauseProposed => exact fun _ => rfl
      | unpauseApproved _ approves _ => exact fun _ => approves.pending
      | unpaused => exact fun active => by cases active
      | unpauseCancelled => exact fun active => by cases active
      | _ => exact pending

/-- No account may claim more than all accounts together. -/
theorem run_claims (run : (escrowSystem chain).Run history s) (account : Address) :
    s.claimableUsdc account ≤ s.totalClaimableUsdc := by
  have solvent : ∃ balance, s.custody.Solvent balance := by
    apply run_invariant run
    · intro config origin deployed
      obtain ⟨_, _, rfl⟩ := deployed.world
      refine ⟨0, fun tradeId known => absurd known (Nat.not_lt_zero _), ?_, Nat.zero_le _⟩
      simp [World.custody, Config.world, holdings]
    · intro s action next established transacted solvent
      obtain ⟨balance, solvent⟩ := solvent
      cases transacted with
      | foreign => exact ⟨balance, solvent⟩
      | called msg call _ _ activity =>
        obtain ⟨flow, step⟩ := activity.custody_step
        exact ⟨balance + flow.received, step.solvent solvent (Nat.le_add_right _ _)⟩
  obtain ⟨balance, solvent⟩ := solvent
  exact (le_holdings s.claimableUsdc account).trans_eq solvent.ledger.symm

/-- The payout receiver, and every proposed one, is an address. -/
structure Received (g : Governance) : Prop where
  current : g.treasuryPayoutAddress ≠ .zero
  proposed : ∀ proposalId < g.treasuryPayoutAddressUpdate.counter,
    (g.treasuryPayoutAddressUpdate.proposals proposalId).matter.newPayoutReceiver ≠ .zero

/-- A call that opens a proposal for a payout receiver names an address. -/
theorem opened_receiver {result : World σ} (executed : execute chain msg call s = .ok result)
    (deliberates : call.deliberates = true)
    (opened : s.treasuryPayoutAddressUpdate.counter < result.treasuryPayoutAddressUpdate.counter) :
    (result.treasuryPayoutAddressUpdate.proposals s.treasuryPayoutAddressUpdate.counter).matter.newPayoutReceiver ≠
      .zero := by
  cases call with
  | proposeTreasuryPayoutAddressUpdate newPayoutReceiver =>
    simp only [execute, proposeTreasuryPayoutAddressUpdate, bind_eq_ok, require_eq_ok, exists_const, pure_eq_ok] at executed
    obtain ⟨_, _, named, _, _, rfl⟩ := executed
    simpa [openProposal] using named
  | approveTreasuryPayoutAddressUpdate proposalId =>
    simp only [execute, approveTreasuryPayoutAddressUpdate, bind_eq_ok, approveProposal_eq_ok, pure_eq_ok] at executed
    obtain ⟨_, _, _, ⟨_, _, _, rfl⟩, rfl⟩ := executed
    exact absurd opened (Nat.lt_irrefl _)
  | cancelExpiredTreasuryPayoutAddressUpdateProposal proposalId =>
    simp only [execute, cancelExpiredTreasuryPayoutAddressUpdateProposal, bind_eq_ok, cancelExpiredProposal_eq_ok,
      pure_eq_ok] at executed
    obtain ⟨_, _, _, ⟨_, _, _, _, _, rfl⟩, rfl⟩ := executed
    exact absurd opened (Nat.lt_irrefl _)
  | proposeOracleUpdate newOracle =>
    simp only [execute, proposeOracleUpdate, bind_eq_ok, require_eq_ok, exists_const, pure_eq_ok] at executed
    obtain ⟨_, _, _, _, _, rfl⟩ := executed
    exact absurd opened (Nat.lt_irrefl _)
  | approveOracleUpdate proposalId =>
    simp only [execute, approveOracleUpdate, bind_eq_ok, pure_eq_ok] at executed
    obtain ⟨_, _, _, _, rfl⟩ := executed
    exact absurd opened (Nat.lt_irrefl _)
  | cancelExpiredOracleUpdateProposal proposalId =>
    simp only [execute, cancelExpiredOracleUpdateProposal, bind_eq_ok, pure_eq_ok] at executed
    obtain ⟨_, _, _, _, rfl⟩ := executed
    exact absurd opened (Nat.lt_irrefl _)
  | proposeAddAdmin newAdmin =>
    simp only [execute, proposeAddAdmin, bind_eq_ok, require_eq_ok, exists_const, pure_eq_ok] at executed
    obtain ⟨_, _, _, _, _, rfl⟩ := executed
    exact absurd opened (Nat.lt_irrefl _)
  | approveAddAdmin proposalId =>
    simp only [execute, approveAddAdmin, bind_eq_ok, pure_eq_ok] at executed
    obtain ⟨_, _, _, _, rfl⟩ := executed
    exact absurd opened (Nat.lt_irrefl _)
  | cancelExpiredAddAdminProposal proposalId =>
    simp only [execute, cancelExpiredAddAdminProposal, bind_eq_ok, pure_eq_ok] at executed
    obtain ⟨_, _, _, _, rfl⟩ := executed
    exact absurd opened (Nat.lt_irrefl _)
  | _ => cases deliberates

theorem Ruling.received {p : Parameters} {g next : Governance} (ruling : Ruling p msg g call next) (received : Received g)
    (opened : call.deliberates = true → g.treasuryPayoutAddressUpdate.counter < next.treasuryPayoutAddressUpdate.counter →
      (next.treasuryPayoutAddressUpdate.proposals g.treasuryPayoutAddressUpdate.counter).matter.newPayoutReceiver ≠
        .zero) : Received next := by
  cases ruling with
  | treasuryPayoutAddressUpdated proposalId enactable =>
    refine ⟨received.proposed proposalId enactable.live.known, ?_⟩
    intro other known
    by_cases same : other = proposalId
    · subst same
      simpa using received.proposed other known
    · simpa [same] using received.proposed other known
  | treasuryPayoutAddressUpdateMoved deliberates motion =>
    refine ⟨received.current, ?_⟩
    intro other known
    cases motion with
    | proposed matter _ _ =>
      rcases Nat.lt_or_eq_of_le (Nat.le_of_lt_succ known) with older | rfl
      · simpa [Nat.ne_of_lt older] using received.proposed other older
      · exact opened deliberates (Nat.lt_succ_self _)
    | approved proposalId _ live _ =>
      by_cases same : other = proposalId
      · subst same
        simpa using received.proposed other known
      · simpa [same] using received.proposed other known
    | cancelled proposalId => exact received.proposed other known
  | _ => exact ⟨received.current, received.proposed⟩

theorem run_received (run : (escrowSystem chain).Run history s) : Received s.toGovernance := by
  have kept : Established s ∧ Received s.toGovernance := by
    apply run.invariant
    · rintro origin ⟨config, deployed⟩
      refine ⟨deployed.established, ?_⟩
      obtain ⟨usdc, timestamp, _, success⟩ := deployed
      have named : config.treasuryAddress ≠ .zero := by
        simp only [Config.deploy, bind_eq_ok, require_eq_ok, exists_const] at success
        exact success.2.2.1
      obtain ⟨_, _, _, rfl⟩ := deploy_eq_ok success
      exact ⟨named, fun proposalId known => absurd known (Nat.not_lt_zero _)⟩
    · rintro s action next step ⟨established, received⟩
      have transacted := step_transacted established.unopened step
      refine ⟨transacted.established established, ?_⟩
      obtain ⟨_, _, ⟨msg, call, result, rfl, executed, rfl⟩ | ⟨msg, op, usdc, rfl, _, _, rfl⟩⟩ := step_cases step
      · cases transacted with
        | called _ _ _ _ _ _ ruling =>
          have opened (deliberates : call.deliberates = true) := opened_receiver executed deliberates
          exact ruling.received received opened
      · exact received
  exact kept.2

end Standing

section Calls

theorem accepts_pause (admin : s.isAdmin msg.sender = true) : Accepts chain msg .pause s ↔ s.paused = false := by
  simp only [Accepts, execute, pause, pausePrimitive, onlyAdmin, whenNotPaused, bind_eq_ok, require_eq_ok, exists_const,
    pure_eq_ok, admin, true_and, exists_and_left, exists_eq', and_true, and_self]

theorem accepts_pauseClaims (admin : s.isAdmin msg.sender = true) : Accepts chain msg .pauseClaims s ↔ s.claimsPaused = false := by
  simp only [Accepts, execute, pauseClaims, onlyAdmin, bind_eq_ok, require_eq_ok, exists_const, pure_eq_ok, admin, true_and,
    exists_and_left, exists_eq', and_true]

theorem accepts_unpauseClaims (admin : s.isAdmin msg.sender = true) : Accepts chain msg .unpauseClaims s ↔ s.claimsPaused = true := by
  simp only [Accepts, execute, unpauseClaims, onlyAdmin, bind_eq_ok, require_eq_ok, exists_const, pure_eq_ok, admin, true_and,
    exists_and_left, exists_eq', and_true]

theorem accepts_proposeUnpause (admin : s.isAdmin msg.sender = true) :
    Accepts chain msg .proposeUnpause s ↔ s.paused = true ∧ s.oracleActive = true := by
  simp only [Accepts, execute, proposeUnpause, onlyAdmin, bind_eq_ok, require_eq_ok, exists_const, pure_eq_ok, admin, true_and,
    exists_and_left, exists_eq', and_true]

theorem accepts_approveUnpause (admin : s.isAdmin msg.sender = true) : Accepts chain msg .approveUnpause s ↔ s.paused = true ∧
    s.hasActiveUnpauseProposal = true ∧ s.unpauseProposal.executed = false ∧ s.unpauseHasApproved msg.sender = false := by
  simp only [Accepts, execute, approveUnpause, onlyAdmin, bind_eq_ok, require_eq_ok, exists_const, admin, true_and,
    exists_and_left]
  constructor
  · rintro ⟨paused, active, pending, fresh, _⟩
    exact ⟨paused, active, pending, fresh⟩
  · rintro ⟨paused, active, pending, fresh⟩
    refine ⟨paused, active, pending, fresh, ?_⟩
    by_cases quorum : s.governanceApprovals ≤ s.unpauseProposal.approvalCount + 1
    · have executes : executeUnpause msg (recordUnpauseApproval msg s) = .ok _ :=
        executeUnpause_eq_ok.mpr ⟨pending, quorum, paused, rfl⟩
      exact ⟨_, (if_pos quorum).trans executes⟩
    · exact ⟨_, if_neg quorum⟩

theorem accepts_cancelUnpauseProposal (admin : s.isAdmin msg.sender = true) : Accepts chain msg .cancelUnpauseProposal s ↔
    s.hasActiveUnpauseProposal = true ∧ s.unpauseProposal.executed = false := by
  simp only [Accepts, execute, cancelUnpauseProposal, onlyAdmin, bind_eq_ok, require_eq_ok, exists_const, pure_eq_ok, admin,
    true_and, exists_and_left, exists_eq', and_true]

theorem accepts_disableOracleEmergency (admin : s.isAdmin msg.sender = true) :
    Accepts chain msg .disableOracleEmergency s ↔ s.oracleActive = true := by
  simp only [Accepts, execute, disableOracleEmergency, onlyAdmin, bind_eq_ok, require_eq_ok, exists_const, admin, true_and,
    exists_and_left, pausePrimitive, whenNotPaused]
  cases paused : s.paused with
  | true => simp [pure, Except.pure, bind, Except.bind]
  | false => simp [pure, Except.pure, bind, Except.bind, require]

theorem accepts_proposeOracleUpdate (admin : s.isAdmin msg.sender = true) : Accepts chain msg (.proposeOracleUpdate newOracle) s ↔
    newOracle ≠ .zero ∧ newOracle ≠ s.oracleAddress ∧ s.governanceApprovals ≤ s.admins.length := by
  simp only [Accepts, execute, proposeOracleUpdate, onlyAdmin, bind_eq_ok, require_eq_ok, exists_const, pure_eq_ok, admin,
    true_and, exists_and_left, exists_eq', and_true]

theorem accepts_proposeTreasuryPayoutAddressUpdate (admin : s.isAdmin msg.sender = true) :
    Accepts chain msg (.proposeTreasuryPayoutAddressUpdate newPayoutReceiver) s ↔
      newPayoutReceiver ≠ .zero ∧ newPayoutReceiver ≠ s.treasuryPayoutAddress ∧
        s.governanceApprovals ≤ s.admins.length := by
  simp only [Accepts, execute, proposeTreasuryPayoutAddressUpdate, onlyAdmin, bind_eq_ok, require_eq_ok, exists_const,
    pure_eq_ok, admin, true_and, exists_and_left, exists_eq', and_true]

theorem accepts_claimTreasury (covered : s.claimableUsdc s.treasuryAddress ≤ s.totalClaimableUsdc)
    (received : s.treasuryPayoutAddress ≠ .zero)
    (transfers : ∃ usdc, chain.token.transfer s.usdc chain.self s.treasuryPayoutAddress
      (s.claimableUsdc s.treasuryAddress) = .ok usdc) :
    Accepts chain msg .claimTreasury s ↔ s.claimsPaused = false ∧ 0 < s.claimableUsdc s.treasuryAddress := by
  obtain ⟨usdc, transferred⟩ := transfers
  simp only [Accepts, execute, claimTreasury, whenClaimsNotPaused, bind_eq_ok, require_eq_ok, exists_const,
    checkedSub_eq_ok, safeTransfer_eq_ok, pure_eq_ok]
  constructor
  · rintro ⟨_, unpaused, positive, _⟩
    exact ⟨unpaused, positive⟩
  · rintro ⟨unpaused, positive⟩
    exact ⟨_, unpaused, positive, received, _, ⟨covered, rfl⟩, _, ⟨usdc, transferred, rfl⟩, rfl⟩

section Proposals

variable {Matter : Type}

/-- What the approvals of the two families ask. -/
structure Approvable (book : ProposalBook Address Matter) (now : Nat) (voter : Address) (proposalId : Nat) : Prop where
  initialized : 0 < (book.proposals proposalId).createdAt
  live : book.Live proposalId now
  fresh : book.hasApproved proposalId voter = false

/-- What their executions ask. -/
structure Executable (quorum : Nat) (eta : Matter → Nat) (book : ProposalBook Address Matter) (now proposalId : Nat) :
    Prop where
  initialized : 0 < (book.proposals proposalId).createdAt
  live : book.Live proposalId now
  approved : quorum ≤ (book.proposals proposalId).approvalCount
  elapsed : eta (book.proposals proposalId).matter ≤ now

/-- What the cancellations of expired proposals ask. -/
structure Cancellable (book : ProposalBook Address Matter) (now proposalId : Nat) : Prop where
  known : proposalId < book.counter
  initialized : 0 < (book.proposals proposalId).createdAt
  pending : (book.proposals proposalId).executed = false
  standing : book.cancelled proposalId = false
  expired : book.expiresAt proposalId < now

theorem accepts_approveOracleUpdate (admin : s.isAdmin msg.sender = true) :
    Accepts chain msg (.approveOracleUpdate proposalId) s ↔
      Approvable s.oracleUpdate msg.timestamp msg.sender proposalId := by
  simp only [Accepts, execute, approveOracleUpdate, onlyAdmin, bind_eq_ok, require_eq_ok, exists_const,
    approveProposal_eq_ok, pure_eq_ok]
  constructor
  · rintro ⟨_, _, _, ⟨initialized, live, fresh, _⟩, _⟩
    exact ⟨initialized, live, fresh⟩
  · rintro ⟨initialized, live, fresh⟩
    exact ⟨_, admin, _, ⟨initialized, live, fresh, rfl⟩, rfl⟩

theorem accepts_approveTreasuryPayoutAddressUpdate (admin : s.isAdmin msg.sender = true) :
    Accepts chain msg (.approveTreasuryPayoutAddressUpdate proposalId) s ↔
      Approvable s.treasuryPayoutAddressUpdate msg.timestamp msg.sender proposalId := by
  simp only [Accepts, execute, approveTreasuryPayoutAddressUpdate, onlyAdmin, bind_eq_ok, require_eq_ok, exists_const,
    approveProposal_eq_ok, pure_eq_ok]
  constructor
  · rintro ⟨_, _, _, ⟨initialized, live, fresh, _⟩, _⟩
    exact ⟨initialized, live, fresh⟩
  · rintro ⟨initialized, live, fresh⟩
    exact ⟨_, admin, _, ⟨initialized, live, fresh, rfl⟩, rfl⟩

theorem accepts_executeOracleUpdate (admin : s.isAdmin msg.sender = true) :
    Accepts chain msg (.executeOracleUpdate proposalId) s ↔
      Executable s.governanceApprovals OracleUpdate.eta s.oracleUpdate msg.timestamp proposalId := by
  simp only [Accepts, execute, executeOracleUpdate, onlyAdmin, bind_eq_ok, require_eq_ok, exists_const,
    requireExecutable_eq_ok, pure_eq_ok]
  constructor
  · rintro ⟨_, _, ⟨initialized, live, approved, elapsed⟩, _⟩
    exact ⟨initialized, live, approved, elapsed⟩
  · rintro ⟨initialized, live, approved, elapsed⟩
    exact ⟨_, admin, ⟨initialized, live, approved, elapsed⟩, rfl⟩

theorem accepts_executeTreasuryPayoutAddressUpdate (admin : s.isAdmin msg.sender = true) (received : Received s.toGovernance) :
    Accepts chain msg (.executeTreasuryPayoutAddressUpdate proposalId) s ↔
      Executable s.governanceApprovals TreasuryPayoutAddressUpdate.eta s.treasuryPayoutAddressUpdate msg.timestamp
        proposalId := by
  simp only [Accepts, execute, executeTreasuryPayoutAddressUpdate, onlyAdmin, bind_eq_ok, require_eq_ok, exists_const,
    requireExecutable_eq_ok, pure_eq_ok]
  constructor
  · rintro ⟨_, _, ⟨initialized, live, approved, elapsed⟩, _⟩
    exact ⟨initialized, live, approved, elapsed⟩
  · rintro ⟨initialized, live, approved, elapsed⟩
    exact ⟨_, admin, ⟨initialized, live, approved, elapsed⟩, received.proposed proposalId live.known, rfl⟩

theorem accepts_cancelExpiredOracleUpdateProposal (admin : s.isAdmin msg.sender = true) :
    Accepts chain msg (.cancelExpiredOracleUpdateProposal proposalId) s ↔
      Cancellable s.oracleUpdate msg.timestamp proposalId := by
  simp only [Accepts, execute, cancelExpiredOracleUpdateProposal, onlyAdmin, bind_eq_ok, require_eq_ok, exists_const,
    cancelExpiredProposal_eq_ok, pure_eq_ok]
  constructor
  · rintro ⟨_, _, _, ⟨known, initialized, pending, standing, expired, _⟩, _⟩
    exact ⟨known, initialized, pending, standing, expired⟩
  · rintro ⟨known, initialized, pending, standing, expired⟩
    exact ⟨_, admin, _, ⟨known, initialized, pending, standing, expired, rfl⟩, rfl⟩

theorem accepts_cancelExpiredTreasuryPayoutAddressUpdateProposal (admin : s.isAdmin msg.sender = true) :
    Accepts chain msg (.cancelExpiredTreasuryPayoutAddressUpdateProposal proposalId) s ↔
      Cancellable s.treasuryPayoutAddressUpdate msg.timestamp proposalId := by
  simp only [Accepts, execute, cancelExpiredTreasuryPayoutAddressUpdateProposal, onlyAdmin, bind_eq_ok, require_eq_ok,
    exists_const, cancelExpiredProposal_eq_ok, pure_eq_ok]
  constructor
  · rintro ⟨_, _, _, ⟨known, initialized, pending, standing, expired, _⟩, _⟩
    exact ⟨known, initialized, pending, standing, expired⟩
  · rintro ⟨known, initialized, pending, standing, expired⟩
    exact ⟨_, admin, _, ⟨known, initialized, pending, standing, expired, rfl⟩, rfl⟩

end Proposals

end Calls

end Agroasys.Escrow
