import Agroasys.Escrow.Effects

namespace Agroasys.Escrow

open Function Agroasys.Foundation

variable {σ Op : Type}

/-- Calls on trades, disputes and claims. -/
def Call.settles : Call → Bool
  | .createTrade _ | .claim | .claimTreasury | .releaseFundsStage1 _ | .confirmArrival _
  | .openDispute _ | .finalizeAfterDisputeWindow _ | .cancelLockedTradeAfterTimeout _
  | .refundInTransitAfterTimeout _ | .proposeDisputeSolution _ _ | .approveDisputeSolution _
  | .cancelExpiredDisputeProposal _ => true
  | _ => false

/-- Calls that change nothing but a timelocked proposal. -/
def Call.deliberates : Call → Bool
  | .proposeOracleUpdate _ | .approveOracleUpdate _ | .cancelExpiredOracleUpdateProposal _
  | .proposeAddAdmin _ | .approveAddAdmin _ | .cancelExpiredAddAdminProposal _
  | .proposeTreasuryPayoutAddressUpdate _ | .approveTreasuryPayoutAddressUpdate _
  | .cancelExpiredTreasuryPayoutAddressUpdateProposal _ => true
  | _ => false

namespace Governance

def oracleUpdateRules (p : Parameters) (g : Governance) : Rules Address OracleUpdate where
  eligible voter := g.isAdmin voter = true
  admissible matter now := matter.newOracle ≠ g.oracleAddress ∧
    p.governanceApprovals ≤ g.admins.length ∧ matter.emergencyFastTrack = !g.oracleActive ∧
    matter.eta = if g.oracleActive then now + p.governanceTimelock else now
  ttl := governanceProposalTtl
  quorum := p.governanceApprovals
  ready matter now := matter.eta ≤ now

def adminAddRules (p : Parameters) (g : Governance) : Rules Address AdminAdd where
  eligible voter := g.isAdmin voter = true
  admissible matter now := p.governanceApprovals ≤ g.admins.length ∧
    matter.eta = now + p.governanceTimelock
  ttl := governanceProposalTtl
  quorum := p.governanceApprovals
  ready matter now := matter.eta ≤ now

def treasuryPayoutAddressUpdateRules (p : Parameters) (g : Governance) :
    Rules Address TreasuryPayoutAddressUpdate where
  eligible voter := g.isAdmin voter = true
  admissible matter now := p.governanceApprovals ≤ g.admins.length ∧
    matter.eta = now + p.governanceTimelock
  ttl := governanceProposalTtl
  quorum := p.governanceApprovals
  ready matter now := matter.eta ≤ now

/-- The approvals left when the open unpause proposal, if there is one, is
replaced. -/
def standingApprovals (g : Governance) : Address → Bool :=
  if g.hasActiveUnpauseProposal then clearApprovals g.admins g.unpauseHasApproved
  else g.unpauseHasApproved

/-- A further approval of the open unpause proposal. -/
structure Approves (g : Governance) (admin : Address) : Prop where
  paused : g.paused = true
  active : g.hasActiveUnpauseProposal = true
  pending : g.unpauseProposal.executed = false
  fresh : g.unpauseHasApproved admin = false

end Governance

/-- What a successful call makes of the governance part of the storage. -/
inductive Ruling (p : Parameters) (msg : Message) (g : Governance) : Call → Governance → Prop where
  | kept (settles : call.settles = true) : Ruling p msg g call g
  | paused (admin : g.isAdmin msg.sender = true) (unpaused : g.paused = false) :
      Ruling p msg g .pause { g with paused := true }
  | claimsPaused (admin : g.isAdmin msg.sender = true) (open_ : g.claimsPaused = false) :
      Ruling p msg g .pauseClaims { g with claimsPaused := true }
  | claimsUnpaused (admin : g.isAdmin msg.sender = true) (closed : g.claimsPaused = true) :
      Ruling p msg g .unpauseClaims { g with claimsPaused := false }
  | unpauseProposed (admin : g.isAdmin msg.sender = true) (paused : g.paused = true)
      (active : g.oracleActive = true) :
      Ruling p msg g .proposeUnpause { g with
        unpauseProposal := ⟨1, false, msg.timestamp, msg.sender⟩
        unpauseHasApproved := update g.standingApprovals msg.sender true
        hasActiveUnpauseProposal := true }
  | unpauseApproved (admin : g.isAdmin msg.sender = true) (approves : g.Approves msg.sender)
      (short : g.unpauseProposal.approvalCount + 1 < p.governanceApprovals) :
      Ruling p msg g .approveUnpause { g with
        unpauseProposal :=
          { g.unpauseProposal with approvalCount := g.unpauseProposal.approvalCount + 1 }
        unpauseHasApproved := update g.unpauseHasApproved msg.sender true }
  | unpaused (admin : g.isAdmin msg.sender = true) (approves : g.Approves msg.sender)
      (quorum : p.governanceApprovals ≤ g.unpauseProposal.approvalCount + 1) :
      Ruling p msg g .approveUnpause { g with
        paused := false
        unpauseProposal :=
          { g.unpauseProposal with
            approvalCount := g.unpauseProposal.approvalCount + 1
            executed := true }
        unpauseHasApproved :=
          clearApprovals g.admins (update g.unpauseHasApproved msg.sender true)
        hasActiveUnpauseProposal := false }
  | unpauseCancelled (admin : g.isAdmin msg.sender = true)
      (active : g.hasActiveUnpauseProposal = true) :
      Ruling p msg g .cancelUnpauseProposal { g with
        unpauseProposal := default
        unpauseHasApproved := clearApprovals g.admins g.unpauseHasApproved
        hasActiveUnpauseProposal := false }
  | oracleDisabled (admin : g.isAdmin msg.sender = true) (active : g.oracleActive = true) :
      Ruling p msg g .disableOracleEmergency { g with paused := true, oracleActive := false }
  | oracleUpdateMoved (deliberates : call.deliberates = true)
      (motion : (g.oracleUpdate).Motion (g.oracleUpdateRules p) msg.timestamp msg.sender book) :
      Ruling p msg g call { g with oracleUpdate := book }
  | oracleUpdated (proposalId : Nat)
      (enactable : g.oracleUpdate.Enactable (g.oracleUpdateRules p) msg.timestamp msg.sender proposalId) :
      Ruling p msg g (.executeOracleUpdate proposalId) { g with
        oracleUpdate := g.oracleUpdate.execute proposalId
        oracleAddress := (g.oracleUpdate.proposals proposalId).matter.newOracle
        oracleActive := true }
  | adminAddMoved (deliberates : call.deliberates = true)
      (motion : (g.adminAdd).Motion (g.adminAddRules p) msg.timestamp msg.sender book) :
      Ruling p msg g call { g with adminAdd := book }
  | adminAdded (proposalId : Nat)
      (enactable : g.adminAdd.Enactable (g.adminAddRules p) msg.timestamp msg.sender proposalId)
      (new : g.isAdmin (g.adminAdd.proposals proposalId).matter.newAdmin = false) :
      Ruling p msg g (.executeAddAdmin proposalId) { g with
        adminAdd := g.adminAdd.execute proposalId
        admins := g.admins ++ [(g.adminAdd.proposals proposalId).matter.newAdmin]
        isAdmin := update g.isAdmin (g.adminAdd.proposals proposalId).matter.newAdmin true }
  | treasuryPayoutAddressUpdateMoved (deliberates : call.deliberates = true)
      (motion : (g.treasuryPayoutAddressUpdate).Motion (g.treasuryPayoutAddressUpdateRules p)
        msg.timestamp msg.sender book) :
      Ruling p msg g call { g with treasuryPayoutAddressUpdate := book }
  | treasuryPayoutAddressUpdated (proposalId : Nat)
      (enactable : g.treasuryPayoutAddressUpdate.Enactable (g.treasuryPayoutAddressUpdateRules p)
        msg.timestamp msg.sender proposalId) :
      Ruling p msg g (.executeTreasuryPayoutAddressUpdate proposalId) { g with
        treasuryPayoutAddressUpdate := g.treasuryPayoutAddressUpdate.execute proposalId
        treasuryPayoutAddress :=
          (g.treasuryPayoutAddressUpdate.proposals proposalId).matter.newPayoutReceiver }

section Inversion

variable {p : Parameters} {msg : Message} {g next : Governance} {proposalId : Nat}

theorem Ruling.of_proposeUnpause (ruling : Ruling p msg g .proposeUnpause next) :
    next = { g with
      unpauseProposal := ⟨1, false, msg.timestamp, msg.sender⟩
      unpauseHasApproved := update g.standingApprovals msg.sender true
      hasActiveUnpauseProposal := true } := by
  cases ruling with
  | kept impossible | oracleUpdateMoved impossible | adminAddMoved impossible
  | treasuryPayoutAddressUpdateMoved impossible => cases impossible
  | unpauseProposed => rfl

theorem Ruling.of_approveUnpause (ruling : Ruling p msg g .approveUnpause next) :
    g.unpauseProposal.approvalCount + 1 < p.governanceApprovals ∧ next = { g with
        unpauseProposal :=
          { g.unpauseProposal with approvalCount := g.unpauseProposal.approvalCount + 1 }
        unpauseHasApproved := update g.unpauseHasApproved msg.sender true } ∨
      p.governanceApprovals ≤ g.unpauseProposal.approvalCount + 1 ∧ next.paused = false ∧
        next.admins = g.admins ∧ next.isAdmin = g.isAdmin := by
  cases ruling with
  | kept impossible | oracleUpdateMoved impossible | adminAddMoved impossible
  | treasuryPayoutAddressUpdateMoved impossible => cases impossible
  | unpauseApproved _ _ short => exact .inl ⟨short, rfl⟩
  | unpaused _ _ quorum => exact .inr ⟨quorum, rfl, rfl, rfl⟩

theorem Ruling.of_disableOracleEmergency (ruling : Ruling p msg g .disableOracleEmergency next) :
    next.oracleUpdate = g.oracleUpdate ∧ next.oracleAddress = g.oracleAddress := by
  cases ruling with
  | kept impossible | oracleUpdateMoved impossible | adminAddMoved impossible
  | treasuryPayoutAddressUpdateMoved impossible => cases impossible
  | oracleDisabled => exact ⟨rfl, rfl⟩

theorem Ruling.of_executeOracleUpdate (ruling : Ruling p msg g (.executeOracleUpdate proposalId) next) :
    g.oracleUpdate.Enactable (g.oracleUpdateRules p) msg.timestamp msg.sender proposalId ∧
      next.oracleAddress = (g.oracleUpdate.proposals proposalId).matter.newOracle ∧
      next.oracleActive = true := by
  cases ruling with
  | kept impossible | oracleUpdateMoved impossible | adminAddMoved impossible
  | treasuryPayoutAddressUpdateMoved impossible => cases impossible
  | oracleUpdated _ enactable => exact ⟨enactable, rfl, rfl⟩

theorem Ruling.of_executeAddAdmin (ruling : Ruling p msg g (.executeAddAdmin proposalId) next) :
    g.adminAdd.Enactable (g.adminAddRules p) msg.timestamp msg.sender proposalId := by
  cases ruling with
  | kept impossible | oracleUpdateMoved impossible | adminAddMoved impossible
  | treasuryPayoutAddressUpdateMoved impossible => cases impossible
  | adminAdded _ enactable => exact enactable

theorem Ruling.of_executeTreasuryPayoutAddressUpdate
    (ruling : Ruling p msg g (.executeTreasuryPayoutAddressUpdate proposalId) next) :
    g.treasuryPayoutAddressUpdate.Enactable (g.treasuryPayoutAddressUpdateRules p) msg.timestamp
      msg.sender proposalId := by
  cases ruling with
  | kept impossible | oracleUpdateMoved impossible | adminAddMoved impossible
  | treasuryPayoutAddressUpdateMoved impossible => cases impossible
  | treasuryPayoutAddressUpdated _ enactable => exact enactable

end Inversion

/-- A call that leaves trades, disputes, claims and tokens alone. -/
structure Governed (msg : Message) (call : Call) (s next : World σ) : Prop where
  parameters : next.toParameters = s.toParameters
  settlement : next.toSettlement = s.toSettlement
  usdc : next.usdc = s.usdc
  custody : next.custody = s.custody
  ruling : Ruling s.toParameters msg s.toGovernance call next.toGovernance

section Controls

private theorem pause_governed {s next : World σ} (success : pause msg s = .ok next) :
    Governed msg .pause s next := by
  simp only [pause, pausePrimitive, whenNotPaused, onlyAdmin, bind_eq_ok, require_eq_ok, exists_const,
    pure_eq_ok] at success
  obtain ⟨admin, unpaused, _, rfl⟩ := success
  exact ⟨rfl, rfl, rfl, emit_custody _ rfl, .paused admin unpaused⟩

private theorem pauseClaims_governed {s next : World σ} (success : pauseClaims msg s = .ok next) :
    Governed msg .pauseClaims s next := by
  simp only [pauseClaims, onlyAdmin, bind_eq_ok, require_eq_ok, exists_const, pure_eq_ok] at success
  obtain ⟨admin, open_, rfl⟩ := success
  exact ⟨rfl, rfl, rfl, emit_custody _ rfl, .claimsPaused admin open_⟩

private theorem unpauseClaims_governed {s next : World σ} (success : unpauseClaims msg s = .ok next) :
    Governed msg .unpauseClaims s next := by
  simp only [unpauseClaims, onlyAdmin, bind_eq_ok, require_eq_ok, exists_const, pure_eq_ok] at success
  obtain ⟨admin, closed, rfl⟩ := success
  exact ⟨rfl, rfl, rfl, emit_custody _ rfl, .claimsUnpaused admin closed⟩

theorem proposeUnpause_governed {s next : World σ} (success : proposeUnpause msg s = .ok next) :
    Governed msg .proposeUnpause s next := by
  simp only [proposeUnpause, onlyAdmin, bind_eq_ok, require_eq_ok, exists_const, pure_eq_ok] at success
  obtain ⟨admin, paused, active, rfl⟩ := success
  have ruling := Ruling.unpauseProposed (p := s.toParameters) admin paused active
  cases slot : s.hasActiveUnpauseProposal with
  | false =>
    simp only [Governance.standingApprovals, slot, Bool.false_eq_true, ↓reduceIte] at ruling ⊢
    exact ⟨rfl, rfl, rfl, emit_custody _ rfl, ruling⟩
  | true =>
    simp only [Governance.standingApprovals, slot, ↓reduceIte] at ruling ⊢
    have replaced : (cancelUnpause msg s).custody = s.custody := emit_custody _ rfl
    exact ⟨rfl, rfl, rfl, (emit_custody _ rfl).trans replaced, ruling⟩

theorem executeUnpause_eq_ok {s next : World σ} :
    executeUnpause msg s = .ok next ↔ s.unpauseProposal.executed = false ∧
      s.governanceApprovals ≤ s.unpauseProposal.approvalCount ∧ s.paused = true ∧
      next = { s with
        paused := false
        unpauseProposal := { s.unpauseProposal with executed := true }
        unpauseHasApproved := clearApprovals s.admins s.unpauseHasApproved
        hasActiveUnpauseProposal := false
        events := s.events ++ [.unpaused msg.sender] } := by
  simp only [executeUnpause, unpausePrimitive, bind_eq_ok, require_eq_ok, exists_const, pure_eq_ok]
  constructor
  · rintro ⟨pending, quorum, _, ⟨paused, rfl⟩, rfl⟩
    exact ⟨pending, quorum, paused, rfl⟩
  · rintro ⟨pending, quorum, paused, rfl⟩
    exact ⟨pending, quorum, _, ⟨paused, rfl⟩, rfl⟩

theorem approveUnpause_governed {s next : World σ} (success : approveUnpause msg s = .ok next) :
    Governed msg .approveUnpause s next := by
  simp only [approveUnpause, onlyAdmin, bind_eq_ok, require_eq_ok, exists_const] at success
  obtain ⟨admin, paused, active, pending, fresh, rest⟩ := success
  have approves : s.Approves msg.sender := ⟨paused, active, pending, fresh⟩
  split at rest
  · rename_i quorum
    obtain ⟨_, _, _, rfl⟩ := executeUnpause_eq_ok.mp rest
    have custody : (recordUnpauseApproval msg s).custody = s.custody := emit_custody _ rfl
    refine ⟨rfl, rfl, rfl, ?_, .unpaused admin approves quorum⟩
    rw [← custody]
    exact emit_custody (recordUnpauseApproval msg s) rfl
  · rename_i short
    cases pure_eq_ok.mp rest
    exact ⟨rfl, rfl, rfl, emit_custody _ rfl, .unpauseApproved admin approves (Nat.lt_of_not_le short)⟩

private theorem cancelUnpauseProposal_governed {s next : World σ}
    (success : cancelUnpauseProposal msg s = .ok next) :
    Governed msg .cancelUnpauseProposal s next := by
  simp only [cancelUnpauseProposal, onlyAdmin, bind_eq_ok, require_eq_ok, exists_const,
    pure_eq_ok] at success
  obtain ⟨admin, active, _, rfl⟩ := success
  exact ⟨rfl, rfl, rfl, emit_custody _ rfl, .unpauseCancelled admin active⟩

private theorem disableOracleEmergency_governed {s next : World σ}
    (success : disableOracleEmergency msg s = .ok next) :
    Governed msg .disableOracleEmergency s next := by
  simp only [disableOracleEmergency, onlyAdmin, bind_eq_ok, require_eq_ok, exists_const] at success
  obtain ⟨admin, active, rest⟩ := success
  have ruling := Ruling.oracleDisabled (p := s.toParameters) admin active
  split at rest
  · simp only [pausePrimitive, whenNotPaused, bind_eq_ok, require_eq_ok, exists_const,
      pure_eq_ok] at rest
    obtain ⟨_, ⟨_, rfl⟩, rfl⟩ := rest
    have switched : ({ s with paused := true, oracleActive := false }.emit
        [.paused msg.sender]).custody = s.custody := emit_custody _ rfl
    exact ⟨rfl, rfl, rfl, (emit_custody _ rfl).trans switched, ruling⟩
  · rename_i already
    simp only [bind_eq_ok, pure_eq_ok] at rest
    obtain ⟨_, rfl, rfl⟩ := rest
    have paused : s.paused = true := by simpa using already
    rw [← paused] at ruling
    exact ⟨rfl, rfl, rfl, emit_custody _ rfl, ruling⟩

end Controls

section Rotations

variable {Matter : Type}

private theorem requireLive_eq_ok {book : ProposalBook Address Matter} :
    requireLive msg book proposalId = .ok result ↔
      0 < (book.proposals proposalId).createdAt ∧ book.Live proposalId msg.timestamp := by
  simp only [requireLive, bind_eq_ok, require_eq_ok, exists_const]
  constructor
  · rintro ⟨known, initialized, pending, standing, unexpired⟩
    exact ⟨initialized, known, pending, standing, unexpired⟩
  · rintro ⟨initialized, known, pending, standing, unexpired⟩
    exact ⟨known, initialized, pending, standing, unexpired⟩

theorem approveProposal_eq_ok {book next : ProposalBook Address Matter} :
    approveProposal msg book proposalId = .ok next ↔
      0 < (book.proposals proposalId).createdAt ∧ book.Live proposalId msg.timestamp ∧
        book.hasApproved proposalId msg.sender = false ∧ book.approve proposalId msg.sender = next := by
  simp only [approveProposal, bind_eq_ok, requireLive_eq_ok, require_eq_ok, exists_const, pure_eq_ok,
    and_assoc]

theorem requireExecutable_eq_ok {book : ProposalBook Address Matter} :
    requireExecutable msg quorum eta book proposalId = .ok result ↔
      0 < (book.proposals proposalId).createdAt ∧ book.Live proposalId msg.timestamp ∧
        quorum ≤ (book.proposals proposalId).approvalCount ∧
        eta (book.proposals proposalId).matter ≤ msg.timestamp := by
  simp only [requireExecutable, bind_eq_ok, requireLive_eq_ok, require_eq_ok, exists_const, and_assoc]

theorem cancelExpiredProposal_eq_ok {book next : ProposalBook Address Matter} :
    cancelExpiredProposal msg book proposalId = .ok next ↔
      proposalId < book.counter ∧ 0 < (book.proposals proposalId).createdAt ∧
        (book.proposals proposalId).executed = false ∧ book.cancelled proposalId = false ∧
        book.expiresAt proposalId < msg.timestamp ∧ book.cancel proposalId = next := by
  simp only [cancelExpiredProposal, bind_eq_ok, require_eq_ok, exists_const, pure_eq_ok, gt_iff_lt]

private theorem proposeOracleUpdate_governed {s next : World σ}
    (success : proposeOracleUpdate msg newOracle s = .ok next) :
    Governed msg (.proposeOracleUpdate newOracle) s next := by
  simp only [proposeOracleUpdate, onlyAdmin, bind_eq_ok, require_eq_ok, exists_const,
    pure_eq_ok] at success
  obtain ⟨admin, _, different, enough, rfl⟩ := success
  refine ⟨rfl, rfl, rfl, emit_custody _ rfl, .oracleUpdateMoved rfl (.proposed _ admin ?_)⟩
  refine ⟨different, enough, rfl, ?_⟩
  cases s.oracleActive <;> rfl

private theorem approveOracleUpdate_governed {s next : World σ}
    (success : approveOracleUpdate msg proposalId s = .ok next) :
    Governed msg (.approveOracleUpdate proposalId) s next := by
  simp only [approveOracleUpdate, onlyAdmin, bind_eq_ok, require_eq_ok, exists_const,
    approveProposal_eq_ok, pure_eq_ok] at success
  obtain ⟨admin, _, ⟨_, live, fresh, rfl⟩, rfl⟩ := success
  exact ⟨rfl, rfl, rfl, emit_custody _ rfl, .oracleUpdateMoved rfl (.approved _ admin live fresh)⟩

private theorem executeOracleUpdate_governed {s next : World σ}
    (success : executeOracleUpdate msg proposalId s = .ok next) :
    Governed msg (.executeOracleUpdate proposalId) s next := by
  simp only [executeOracleUpdate, onlyAdmin, bind_eq_ok, require_eq_ok, exists_const,
    requireExecutable_eq_ok, pure_eq_ok] at success
  obtain ⟨admin, ⟨_, live, quorum, ready⟩, rfl⟩ := success
  exact ⟨rfl, rfl, rfl, emit_custody _ rfl, .oracleUpdated proposalId ⟨admin, live, quorum, ready⟩⟩

private theorem cancelExpiredOracleUpdateProposal_governed {s next : World σ}
    (success : cancelExpiredOracleUpdateProposal msg proposalId s = .ok next) :
    Governed msg (.cancelExpiredOracleUpdateProposal proposalId) s next := by
  simp only [cancelExpiredOracleUpdateProposal, onlyAdmin, bind_eq_ok, require_eq_ok, exists_const,
    cancelExpiredProposal_eq_ok, pure_eq_ok] at success
  obtain ⟨admin, _, ⟨known, _, pending, standing, expired, rfl⟩, rfl⟩ := success
  exact ⟨rfl, rfl, rfl, emit_custody _ rfl,
    .oracleUpdateMoved rfl (.cancelled _ admin known pending standing expired)⟩

private theorem proposeAddAdmin_governed {s next : World σ}
    (success : proposeAddAdmin msg newAdmin s = .ok next) :
    Governed msg (.proposeAddAdmin newAdmin) s next := by
  simp only [proposeAddAdmin, onlyAdmin, bind_eq_ok, require_eq_ok, exists_const,
    pure_eq_ok] at success
  obtain ⟨admin, _, _, enough, rfl⟩ := success
  exact ⟨rfl, rfl, rfl, emit_custody _ rfl, .adminAddMoved rfl (.proposed _ admin ⟨enough, rfl⟩)⟩

private theorem approveAddAdmin_governed {s next : World σ}
    (success : approveAddAdmin msg proposalId s = .ok next) :
    Governed msg (.approveAddAdmin proposalId) s next := by
  simp only [approveAddAdmin, onlyAdmin, bind_eq_ok, require_eq_ok, exists_const,
    approveProposal_eq_ok, pure_eq_ok] at success
  obtain ⟨admin, _, ⟨_, live, fresh, rfl⟩, rfl⟩ := success
  exact ⟨rfl, rfl, rfl, emit_custody _ rfl, .adminAddMoved rfl (.approved _ admin live fresh)⟩

private theorem executeAddAdmin_governed {s next : World σ}
    (success : executeAddAdmin msg proposalId s = .ok next) :
    Governed msg (.executeAddAdmin proposalId) s next := by
  simp only [executeAddAdmin, onlyAdmin, bind_eq_ok, require_eq_ok, exists_const,
    requireExecutable_eq_ok, pure_eq_ok] at success
  obtain ⟨admin, ⟨_, live, quorum, ready⟩, _, new, rfl⟩ := success
  exact ⟨rfl, rfl, rfl, emit_custody _ rfl, .adminAdded proposalId ⟨admin, live, quorum, ready⟩ new⟩

private theorem cancelExpiredAddAdminProposal_governed {s next : World σ}
    (success : cancelExpiredAddAdminProposal msg proposalId s = .ok next) :
    Governed msg (.cancelExpiredAddAdminProposal proposalId) s next := by
  simp only [cancelExpiredAddAdminProposal, onlyAdmin, bind_eq_ok, require_eq_ok, exists_const,
    cancelExpiredProposal_eq_ok, pure_eq_ok] at success
  obtain ⟨admin, _, ⟨known, _, pending, standing, expired, rfl⟩, rfl⟩ := success
  exact ⟨rfl, rfl, rfl, emit_custody _ rfl,
    .adminAddMoved rfl (.cancelled _ admin known pending standing expired)⟩

private theorem proposeTreasuryPayoutAddressUpdate_governed {s next : World σ}
    (success : proposeTreasuryPayoutAddressUpdate msg newPayoutReceiver s = .ok next) :
    Governed msg (.proposeTreasuryPayoutAddressUpdate newPayoutReceiver) s next := by
  simp only [proposeTreasuryPayoutAddressUpdate, onlyAdmin, bind_eq_ok, require_eq_ok, exists_const,
    pure_eq_ok] at success
  obtain ⟨admin, _, _, enough, rfl⟩ := success
  exact ⟨rfl, rfl, rfl, emit_custody _ rfl,
    .treasuryPayoutAddressUpdateMoved rfl (.proposed _ admin ⟨enough, rfl⟩)⟩

private theorem approveTreasuryPayoutAddressUpdate_governed {s next : World σ}
    (success : approveTreasuryPayoutAddressUpdate msg proposalId s = .ok next) :
    Governed msg (.approveTreasuryPayoutAddressUpdate proposalId) s next := by
  simp only [approveTreasuryPayoutAddressUpdate, onlyAdmin, bind_eq_ok, require_eq_ok, exists_const,
    approveProposal_eq_ok, pure_eq_ok] at success
  obtain ⟨admin, _, ⟨_, live, fresh, rfl⟩, rfl⟩ := success
  exact ⟨rfl, rfl, rfl, emit_custody _ rfl,
    .treasuryPayoutAddressUpdateMoved rfl (.approved _ admin live fresh)⟩

private theorem executeTreasuryPayoutAddressUpdate_governed {s next : World σ}
    (success : executeTreasuryPayoutAddressUpdate msg proposalId s = .ok next) :
    Governed msg (.executeTreasuryPayoutAddressUpdate proposalId) s next := by
  simp only [executeTreasuryPayoutAddressUpdate, onlyAdmin, bind_eq_ok, require_eq_ok, exists_const,
    requireExecutable_eq_ok, pure_eq_ok] at success
  obtain ⟨admin, ⟨_, live, quorum, ready⟩, _, rfl⟩ := success
  exact ⟨rfl, rfl, rfl, emit_custody _ rfl,
    .treasuryPayoutAddressUpdated proposalId ⟨admin, live, quorum, ready⟩⟩

private theorem cancelExpiredTreasuryPayoutAddressUpdateProposal_governed {s next : World σ}
    (success : cancelExpiredTreasuryPayoutAddressUpdateProposal msg proposalId s = .ok next) :
    Governed msg (.cancelExpiredTreasuryPayoutAddressUpdateProposal proposalId) s next := by
  simp only [cancelExpiredTreasuryPayoutAddressUpdateProposal, onlyAdmin, bind_eq_ok, require_eq_ok,
    exists_const, cancelExpiredProposal_eq_ok, pure_eq_ok] at success
  obtain ⟨admin, _, ⟨known, _, pending, standing, expired, rfl⟩, rfl⟩ := success
  exact ⟨rfl, rfl, rfl, emit_custody _ rfl,
    .treasuryPayoutAddressUpdateMoved rfl (.cancelled _ admin known pending standing expired)⟩

end Rotations

/-- Every call that is not about trades, disputes or claims is a governance call. -/
theorem execute_governed {chain : Chain σ Op} {s next : World σ} {call : Call}
    (governs : call.settles = false) (success : execute chain msg call s = .ok next) :
    Governed msg call s next := by
  cases call with
  | pause => exact pause_governed success
  | pauseClaims => exact pauseClaims_governed success
  | unpauseClaims => exact unpauseClaims_governed success
  | proposeUnpause => exact proposeUnpause_governed success
  | approveUnpause => exact approveUnpause_governed success
  | cancelUnpauseProposal => exact cancelUnpauseProposal_governed success
  | disableOracleEmergency => exact disableOracleEmergency_governed success
  | proposeOracleUpdate => exact proposeOracleUpdate_governed success
  | approveOracleUpdate => exact approveOracleUpdate_governed success
  | executeOracleUpdate => exact executeOracleUpdate_governed success
  | cancelExpiredOracleUpdateProposal => exact cancelExpiredOracleUpdateProposal_governed success
  | proposeAddAdmin => exact proposeAddAdmin_governed success
  | approveAddAdmin => exact approveAddAdmin_governed success
  | executeAddAdmin => exact executeAddAdmin_governed success
  | cancelExpiredAddAdminProposal => exact cancelExpiredAddAdminProposal_governed success
  | proposeTreasuryPayoutAddressUpdate => exact proposeTreasuryPayoutAddressUpdate_governed success
  | approveTreasuryPayoutAddressUpdate => exact approveTreasuryPayoutAddressUpdate_governed success
  | executeTreasuryPayoutAddressUpdate => exact executeTreasuryPayoutAddressUpdate_governed success
  | cancelExpiredTreasuryPayoutAddressUpdateProposal =>
    exact cancelExpiredTreasuryPayoutAddressUpdateProposal_governed success
  | _ => simp [Call.settles] at governs

end Agroasys.Escrow
