import Agroasys.Escrow.OracleRotation
import Agroasys.Escrow.Quorum

namespace Agroasys.Escrow

open Function Agroasys.Foundation

variable {σ Op : Type} {chain : Chain σ Op}

/-- Roles and trades are as before; switches, oracle and proposals may differ. -/
structure Regoverned (s next : World σ) : Prop where
  parameters : next.toParameters = s.toParameters
  settlement : next.toSettlement = s.toSettlement
  usdc : next.usdc = s.usdc
  admins : next.admins = s.admins
  isAdmin : next.isAdmin = s.isAdmin

private theorem Regoverned.trans {s middle next : World σ} (first : Regoverned s middle)
    (second : Regoverned middle next) : Regoverned s next where
  parameters := second.parameters.trans first.parameters
  settlement := second.settlement.trans first.settlement
  usdc := second.usdc.trans first.usdc
  admins := second.admins.trans first.admins
  isAdmin := second.isAdmin.trans first.isAdmin

/-- The admins can bring about the second state. -/
structure Recovers (chain : Chain σ Op) (s next : World σ) : Prop where
  leads : (escrowSystem chain).Leads (ByAdmin s.isAdmin) s next
  regoverned : Regoverned s next

theorem Recovers.refl (s : World σ) : Recovers chain s s :=
  ⟨.refl s, ⟨rfl, rfl, rfl, rfl, rfl⟩⟩

private theorem Recovers.trans {s middle next : World σ} (first : Recovers chain s middle)
    (second : Recovers chain middle next) : Recovers chain s next := by
  constructor
  · have admins := second.leads
    rw [first.regoverned.isAdmin] at admins
    exact first.leads.trans admins
  · exact first.regoverned.trans second.regoverned

theorem exists_admin {s : World σ} (established : Established s) : ∃ admin, s.isAdmin admin = true := by
  have staffed := established.required.trans_le established.staffed
  obtain ⟨admin, member⟩ := List.exists_mem_of_length_pos staffed
  exact ⟨admin, (established.admins admin).mpr member⟩

private theorem governanceApprovals_le {s : World σ} (established : Established s) (two : 2 ≤ s.admins.length) :
    s.governanceApprovals ≤ s.admins.length := by
  have staffed := established.staffed
  unfold Parameters.governanceApprovals
  split <;> omega

section Oracle

private theorem exists_replacement (current : Address) : ∃ address, address ≠ .zero ∧ address ≠ current := by
  by_cases first : current = ⟨1⟩
  · subst first
    exact ⟨⟨2⟩, by decide, by decide⟩
  · exact ⟨⟨1⟩, by decide, Ne.symm first⟩

private theorem proposeOracleUpdate_ok (msg : Message) {s : World σ} (admin : s.isAdmin msg.sender = true)
    (valid : newOracle ≠ .zero) (different : newOracle ≠ s.oracleAddress)
    (enough : s.governanceApprovals ≤ s.admins.length) (disabled : s.oracleActive = false) :
    ∃ events, proposeOracleUpdate msg newOracle s = .ok { s with
      oracleUpdate := openProposal msg s.oracleUpdate ⟨newOracle, msg.timestamp, true⟩
      events := events } := by
  simp only [proposeOracleUpdate, onlyAdmin, disabled, Bool.not_false, ↓reduceIte, bind_eq_ok,
    require_eq_ok, exists_const, pure_eq_ok]
  exact ⟨_, admin, valid, different, enough, rfl⟩

/-- A disabled oracle can be replaced at once. -/
theorem oracle_recovers {s : World σ} (reachable : (escrowSystem chain).Reachable s)
    (two : 2 ≤ s.admins.length) : ∃ next, Recovers chain s next ∧ next.oracleActive = true ∧
      next.paused = s.paused := by
  obtain ⟨history, run⟩ := reachable
  have established := run_established run
  have enough := governanceApprovals_le established two
  cases active : s.oracleActive with
  | true => exact ⟨s, .refl s, active, rfl⟩
  | false =>
    obtain ⟨admin, eligible⟩ := exists_admin established
    obtain ⟨newOracle, valid, different⟩ := exists_replacement s.oracleAddress
    obtain ⟨events, success⟩ :=
      proposeOracleUpdate_ok ⟨admin, s.now⟩ eligible valid different enough active
    have executed : execute chain ⟨admin, s.now⟩ (.proposeOracleUpdate newOracle) s = .ok _ := success
    have step := step_escrow le_rfl executed
    have proposed : (escrowSystem chain).Leads (ByAdmin s.isAdmin) s _ :=
      .single step ⟨_, _, rfl, eligible⟩
    have tallied : s.oracleUpdate.Tallied := (oracleUpdates chain).tallied ⟨history, run⟩
    have live : (openProposal ⟨admin, s.now⟩ s.oracleUpdate ⟨newOracle, s.now, true⟩).Live
        s.oracleUpdate.counter s.now := by
      constructor
      · simp [openProposal]
      · simp [openProposal]
      · exact (tallied.untouched _ le_rfl).2
      · simp [openProposal]
    obtain ⟨later, reached⟩ := System.Reachable.step ⟨history, run⟩ step
    obtain ⟨_, _, _, _, _, path, _, _, admins, rfl⟩ :=
      oracleUpdate_completes chain s.governanceApprovals (run_established reached)
        ((oracleUpdates chain).tallied ⟨later, reached⟩) (by simp [openProposal, established.clock])
        live le_rfl (by simp [openProposal]) enough (Nat.le_add_left ..)
    exact ⟨_, ⟨proposed.trans ⟨_, path, admins⟩, rfl, rfl, rfl, rfl, rfl⟩, rfl, rfl⟩

end Oracle

section Unpause

private theorem proposeUnpause_ok (msg : Message) {s : World σ} (admin : s.isAdmin msg.sender = true)
    (paused : s.paused = true) (active : s.oracleActive = true) :
    ∃ next, proposeUnpause msg s = .ok next := by
  simp only [proposeUnpause, onlyAdmin, bind_eq_ok, require_eq_ok, exists_const, pure_eq_ok]
  exact ⟨_, admin, paused, active, rfl⟩

private theorem approveUnpause_ok (msg : Message) {s : World σ} (admin : s.isAdmin msg.sender = true)
    (approves : s.Approves msg.sender) : ∃ next, approveUnpause msg s = .ok next := by
  obtain ⟨paused, active, pending, fresh⟩ := approves
  simp only [approveUnpause, onlyAdmin, bind_eq_ok, require_eq_ok, exists_const]
  by_cases quorum : s.governanceApprovals ≤ s.unpauseProposal.approvalCount + 1
  · have executes : executeUnpause msg (recordUnpauseApproval msg s) = .ok _ :=
      executeUnpause_eq_ok.mpr ⟨pending, quorum, paused, rfl⟩
    exact ⟨_, admin, paused, active, pending, fresh, (if_pos quorum).trans executes⟩
  · exact ⟨_, admin, paused, active, pending, fresh, if_neg quorum⟩

/-- An unpause proposal is open that lacks some approvals. -/
structure Unpausing (chain : Chain σ Op) (s : World σ) (missing : Nat) (w : World σ) : Prop where
  reachable : (escrowSystem chain).Reachable w
  regoverned : Regoverned s w
  paused : w.paused = true
  active : w.hasActiveUnpauseProposal = true
  pending : w.unpauseProposal.executed = false
  count : w.unpauseProposal.approvalCount + missing + 1 = w.governanceApprovals

/-- Some admin has not approved yet, and the approval is recorded or unpauses. -/
theorem Unpausing.progress {s w : World σ} (unpausing : Unpausing chain s missing w)
    (two : 2 ≤ s.admins.length) : ∃ label next, (escrowSystem chain).step w label next ∧
      ByAdmin s.isAdmin (⟨w, label, next⟩ : Transition (World σ) (Action Op)) ∧
      ((Regoverned s next ∧ next.paused = false) ∨
        ∃ nearer, nearer < missing ∧ Unpausing chain s nearer next) := by
  obtain ⟨reachable, regoverned, paused, active, pending, count⟩ := unpausing
  obtain ⟨history, run⟩ := reachable
  have established := run_established run
  have slot := run_unpauseSlot run
  rw [← regoverned.admins] at two
  have short : w.unpauseApprovers.card < w.admins.toFinset.card := by
    have enough := governanceApprovals_le established two
    rw [List.toFinset_card_of_nodup established.distinct, ← (slot.active active).2]
    omega
  obtain ⟨admin, member, absent⟩ := Finset.exists_mem_notMem_of_card_lt_card short
  have eligible := (established.admins admin).mpr (List.mem_toFinset.mp member)
  have fresh : w.unpauseHasApproved admin = false := by
    simpa [Governance.unpauseApprovers, eligible] using absent
  obtain ⟨next, success⟩ := approveUnpause_ok ⟨admin, w.now⟩ eligible ⟨paused, active, pending, fresh⟩
  have executed : execute chain ⟨admin, w.now⟩ .approveUnpause w = .ok next := success
  have step := step_escrow le_rfl executed
  have governed := approveUnpause_governed success
  have kept : next.admins = w.admins ∧ next.isAdmin = w.isAdmin ∧ (next.paused = false ∨
      ∃ nearer, nearer < missing ∧ next.paused = true ∧ next.hasActiveUnpauseProposal = true ∧
        next.unpauseProposal.executed = false ∧
        next.unpauseProposal.approvalCount + nearer + 1 = w.governanceApprovals) := by
    have ruling := governed.ruling
    generalize next.toGovernance = g at ruling ⊢
    rcases ruling.of_approveUnpause with ⟨short, rfl⟩ | ⟨_, unpaused, admins, isAdmin⟩
    · refine ⟨rfl, rfl, .inr ⟨missing - 1, by omega, paused, active, pending, ?_⟩⟩
      dsimp only
      omega
    · exact ⟨admins, isAdmin, .inl unpaused⟩
  obtain ⟨admins, isAdmin, outcome⟩ := kept
  have frame : Regoverned s { next with now := w.now } := regoverned.trans
    ⟨governed.parameters, governed.settlement, governed.usdc, admins, isAdmin⟩
  refine ⟨_, _, step, ⟨_, _, rfl, by rwa [← regoverned.isAdmin]⟩, ?_⟩
  rcases outcome with unpaused | ⟨nearer, closer, paused, active, pending, count⟩
  · exact .inl ⟨frame, unpaused⟩
  · refine .inr ⟨nearer, closer, System.Reachable.step ⟨history, run⟩ step, frame, paused, active,
      pending, ?_⟩
    rw [count]
    exact congrArg Parameters.governanceApprovals governed.parameters.symm

/-- Two admins can unpause the protocol once the oracle is active. -/
theorem unpause_recovers {s : World σ} (reachable : (escrowSystem chain).Reachable s)
    (two : 2 ≤ s.admins.length) (oracle : s.oracleActive = true) :
    ∃ next, Recovers chain s next ∧ next.paused = false := by
  cases paused : s.paused with
  | false => exact ⟨s, .refl s, paused⟩
  | true =>
    obtain ⟨history, run⟩ := reachable
    obtain ⟨admin, eligible⟩ := exists_admin (run_established run)
    obtain ⟨next, success⟩ := proposeUnpause_ok ⟨admin, s.now⟩ eligible paused oracle
    have executed : execute chain ⟨admin, s.now⟩ .proposeUnpause s = .ok next := success
    have step := step_escrow le_rfl executed
    have governed := proposeUnpause_governed success
    have opened : next.admins = s.admins ∧ next.isAdmin = s.isAdmin ∧ next.paused = true ∧
        next.hasActiveUnpauseProposal = true ∧ next.unpauseProposal.executed = false ∧
        next.unpauseProposal.approvalCount = 1 := by
      have ruling := governed.ruling
      generalize next.toGovernance = g at ruling ⊢
      cases ruling.of_proposeUnpause
      exact ⟨rfl, rfl, paused, rfl, rfl, rfl⟩
    obtain ⟨admins, isAdmin, paused, active, pending, count⟩ := opened
    have two_le := next.two_le_governanceApprovals
    have start : Unpausing chain s (next.governanceApprovals - 2) { next with now := s.now } := by
      refine ⟨System.Reachable.step ⟨history, run⟩ step,
        ⟨governed.parameters, governed.settlement, governed.usdc, admins, isAdmin⟩, paused, active,
        pending, ?_⟩
      dsimp only
      omega
    obtain ⟨final, leads, frame, unpaused⟩ :=
      System.Leads.countdown (fun _ _ unpausing => unpausing.progress two) start
    have proposed : (escrowSystem chain).Leads (ByAdmin s.isAdmin) s _ :=
      .single step ⟨_, _, rfl, eligible⟩
    exact ⟨final, ⟨proposed.trans leads, frame⟩, unpaused⟩

end Unpause

private theorem unpauseClaims_recovers {s : World σ} (reachable : (escrowSystem chain).Reachable s) :
    ∃ next, Recovers chain s next ∧ next.claimsPaused = false ∧ next.paused = s.paused := by
  cases closed : s.claimsPaused with
  | false => exact ⟨s, .refl s, closed, rfl⟩
  | true =>
    obtain ⟨history, run⟩ := reachable
    obtain ⟨admin, eligible⟩ := exists_admin (run_established run)
    have success : execute chain ⟨admin, s.now⟩ .unpauseClaims s = .ok
        ({ s with claimsPaused := false }.emit [.claimsUnpaused admin]) := by
      simp only [execute, unpauseClaims, onlyAdmin, bind_eq_ok, require_eq_ok, exists_const,
        pure_eq_ok]
      exact ⟨eligible, closed, trivial⟩
    have step := step_escrow le_rfl success
    exact ⟨_, ⟨.single step ⟨_, _, rfl, eligible⟩, rfl, rfl, rfl, rfl, rfl⟩, rfl, rfl⟩

/-- Nothing keeps the parties from settling their trades and collecting claims. -/
structure Operational (s : World σ) : Prop where
  unpaused : s.paused = false
  claims : s.claimsPaused = false

/-- An unpaused protocol stays so; a paused one needs two admins. -/
theorem operation_recovers {s : World σ} (reachable : (escrowSystem chain).Reachable s)
    (condition : s.paused = false ∨ 2 ≤ s.admins.length) :
    ∃ next, Recovers chain s next ∧ Operational next := by
  have reopened : ∃ next, Recovers chain s next ∧ next.paused = false := by
    rcases condition with unpaused | two
    · exact ⟨s, .refl s, unpaused⟩
    · obtain ⟨ready, replaced, active, _⟩ := oracle_recovers reachable two
      rw [← replaced.regoverned.admins] at two
      obtain ⟨next, unpauses, unpaused⟩ :=
        unpause_recovers (replaced.leads.reachable reachable) two active
      exact ⟨next, replaced.trans unpauses, unpaused⟩
  obtain ⟨middle, recovered, unpaused⟩ := reopened
  obtain ⟨next, reopens, claims, same⟩ :=
    unpauseClaims_recovers (recovered.leads.reachable reachable)
  exact ⟨next, recovered.trans reopens, same.trans unpaused, claims⟩

section Alone

/-- There is one admin, and no proposal for a second one. -/
structure Alone (s : World σ) : Prop where
  admins : s.admins.length < 2
  proposals : s.adminAdd.counter = 0

private theorem Transacted.alone {s next : World σ} (transacted : Transacted chain s action next)
    (alone : Alone s) : Alone next := by
  cases transacted with
  | foreign => exact ⟨alone.admins, alone.proposals⟩
  | called msg call _ _ _ _ ruling =>
    obtain ⟨admins, proposals⟩ := alone
    have two := s.two_le_governanceApprovals
    suffices next.toGovernance.admins.length < 2 ∧ next.toGovernance.adminAdd.counter = 0 from
      ⟨this.1, this.2⟩
    generalize next.toGovernance = g at ruling ⊢
    cases ruling with
    | adminAdded proposalId enactable =>
      have known := enactable.live.known
      omega
    | adminAddMoved _ motion =>
      cases motion with
      | proposed _ _ admissible =>
        have enough : s.governanceApprovals ≤ s.admins.length := admissible.1
        omega
      | approved _ _ live =>
        have known := live.known
        omega
      | cancelled _ _ known => omega
    | _ => exact ⟨admins, proposals⟩

/-- The number of admins never falls, and a single admin stays alone. -/
theorem path_admins {config : Config} {s : World σ} (deployed : config.Deployed origin)
    (path : Path (escrowSystem chain) origin history s) :
    config.admins.length ≤ s.admins.length ∧ (config.admins.length < 2 → Alone s) := by
  have started : origin.admins = config.admins := by
    obtain ⟨_, _, rfl⟩ := deployed.world
    rfl
  apply And.right
  apply path_invariant deployed.established path
  · refine ⟨by rw [started], fun one => ⟨by rwa [started], ?_⟩⟩
    rw [(opened_books deployed).2.1]
    rfl
  · rintro s action next established transacted ⟨grown, alone⟩
    refine ⟨?_, fun one => transacted.alone (alone one)⟩
    cases transacted with
    | foreign => exact grown
    | called _ _ _ _ _ _ ruling =>
      obtain ⟨_, _, _, longer⟩ := ruling.admins established.admins established.distinct
      exact grown.trans longer

/-- A single admin who has paused the protocol cannot unpause it. -/
theorem Alone.step_paused {s next : World σ} (alone : Alone s) (reachable : (escrowSystem chain).Reachable s)
    (paused : s.paused = true) (step : (escrowSystem chain).step s action next) :
    next.paused = true := by
  obtain ⟨history, run⟩ := reachable
  have established := run_established run
  cases step_transacted established.unopened step with
  | foreign => exact paused
  | called msg call _ _ _ _ ruling =>
    suffices next.toGovernance.paused = true from this
    generalize next.toGovernance = g at ruling ⊢
    cases ruling with
    | unpaused admin approves quorum =>
      -- The approvals before this one are from other admins, and there is none.
      have count := ((run_unpauseSlot run).active approves.active).2
      have two := s.two_le_governanceApprovals
      have inserted : (insert msg.sender s.unpauseApprovers).card ≤ s.admins.toFinset.card := by
        apply Finset.card_le_card
        intro account member
        rw [List.mem_toFinset, ← established.admins]
        rcases Finset.mem_insert.mp member with same | voted
        · rw [same]
          exact admin
        · exact (Finset.mem_filter.mp voted).2.1
      have absent : msg.sender ∉ s.unpauseApprovers := by
        simp [Governance.unpauseApprovers, approves.fresh]
      rw [Finset.card_insert_of_notMem absent, List.toFinset_card_of_nodup established.distinct] at inserted
      have admins := alone.admins
      omega
    | paused => rfl
    | oracleDisabled => rfl
    | _ => exact paused

private theorem step_paused_trades {s next : World σ} (reachable : (escrowSystem chain).Reachable s)
    (paused : s.paused = true) (step : (escrowSystem chain).step s action next) :
    next.trades = s.trades := by
  obtain ⟨history, run⟩ := reachable
  cases step_transacted (run_established run).unopened step with
  | foreign => rfl
  | called msg call _ _ activity =>
    cases activity with
    | quiet custody => exact congrArg Custody.trades custody
    | created order created =>
      have unpaused := created.unpaused
      simp [paused] at unpaused
    | advanced tradeId move advanced =>
      have unpaused := advanced.unpaused
      simp [paused] at unpaused
    | withdrawn account receiver withdrawn => exact congrArg Custody.trades withdrawn.custody

theorem Alone.frozen {s final : World σ} (alone : Alone s) (reachable : (escrowSystem chain).Reachable s)
    (paused : s.paused = true) (path : Path (escrowSystem chain) s history final) :
    final.trades = s.trades := by
  have kept := reachable.invariant (P := fun w => Alone w ∧ w.paused = true ∧ w.trades = s.trades) path
    ⟨alone, paused, rfl⟩ ?_
  · exact kept.2.2.2
  · rintro w action next reached step ⟨alone, paused, trades⟩
    obtain ⟨history, run⟩ := reached
    have transacted := step_transacted (run_established run).unopened step
    exact ⟨transacted.alone alone, alone.step_paused ⟨history, run⟩ paused step,
      (step_paused_trades ⟨history, run⟩ paused step).trans trades⟩

end Alone

end Agroasys.Escrow
