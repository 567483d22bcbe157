import Agroasys.Foundation.Lockstep
import Agroasys.Foundry.Contract

namespace Agroasys.Foundry

open Function Agroasys.Foundation Agroasys.Escrow

variable {σ Op : Type}

/-- The production contract's storage without the payout receiver. -/
def copy (s : Escrow.World σ) : World σ where
  toParameters := s.toParameters
  toSettlement := s.toSettlement
  paused := s.paused
  claimsPaused := s.claimsPaused
  oracleActive := s.oracleActive
  oracleAddress := s.oracleAddress
  admins := s.admins
  isAdmin := s.isAdmin
  unpauseProposal := s.unpauseProposal
  unpauseHasApproved := s.unpauseHasApproved
  hasActiveUnpauseProposal := s.hasActiveUnpauseProposal
  oracleUpdate := s.oracleUpdate
  adminAdd := s.adminAdd
  usdc := s.usdc
  events := s.events
  now := s.now

/-- The copy rejects with the same reason, or both accept and stay equal. -/
def Mirrors (production : Except Revert (Escrow.World σ)) (copied : Except Revert (World σ)) : Prop :=
  copied = production.map copy

theorem mirrors_pure (s : Escrow.World σ) : Mirrors (pure s) (pure (copy s)) :=
  rfl

private theorem mirrors_emit (same : copied = copy s) (events : List Event) :
    Mirrors (σ := σ) (pure (s.emit events)) (pure (copied.emit events)) := by
  subst same
  rfl

/-- A step that only reads: a guard, a checked sum, the signature check. -/
theorem mirrors_read {read : Except Revert α} {next : α → Except Revert (Escrow.World σ)}
    {copied : α → Except Revert (World σ)} (rest : ∀ value, Mirrors (next value) (copied value)) :
    Mirrors (read >>= next) (read >>= copied) := by
  cases read with
  | error revert => rfl
  | ok value => exact rest value

/-- A guard, which the rest of the call may rely on. -/
theorem mirrors_require {condition : Prop} [Decidable condition]
    {next : Unit → Except Revert (Escrow.World σ)} {copied : Unit → Except Revert (World σ)}
    (rest : condition → Mirrors (next ()) (copied ())) :
    Mirrors (require condition reason >>= next) (require condition reason >>= copied) := by
  unfold require
  split
  · exact rest ‹_›
  · rfl

theorem mirrors_bind {first : Except Revert (Escrow.World σ)}
    {next : Escrow.World σ → Except Revert (Escrow.World σ)}
    {copied : World σ → Except Revert (World σ)} (start : Mirrors first copiedFirst)
    (rest : ∀ s, Mirrors (next s) (copied (copy s))) :
    Mirrors (first >>= next) (copiedFirst >>= copied) := by
  unfold Mirrors at start
  subst start
  cases first with
  | error revert => rfl
  | ok s => exact rest s

theorem mirrors_ite {condition : Prop} [Decidable condition]
    (yes : Mirrors first copiedFirst) (no : Mirrors second copiedSecond) :
    Mirrors (σ := σ) (if condition then first else second)
      (if condition then copiedFirst else copiedSecond) := by
  split
  · exact yes
  · exact no

section Controls

private theorem pause_mirrors (msg : Message) (s : Escrow.World σ) :
    Mirrors (Escrow.pause msg s) (pause msg (copy s)) := by
  apply mirrors_read
  intro _
  apply mirrors_require
  intro unpaused
  simp only [Mirrors, Escrow.pausePrimitive, Escrow.whenNotPaused, require, unpaused]
  rfl

private theorem pauseClaims_mirrors (msg : Message) (s : Escrow.World σ) :
    Mirrors (Escrow.pauseClaims msg s) (pauseClaims msg (copy s)) := by
  repeat (apply mirrors_read; intro _)
  exact mirrors_pure _

private theorem unpauseClaims_mirrors (msg : Message) (s : Escrow.World σ) :
    Mirrors (Escrow.unpauseClaims msg s) (unpauseClaims msg (copy s)) := by
  repeat (apply mirrors_read; intro _)
  exact mirrors_pure _

private theorem proposeUnpause_mirrors (msg : Message) (s : Escrow.World σ) :
    Mirrors (Escrow.proposeUnpause msg s) (proposeUnpause msg (copy s)) := by
  repeat (apply mirrors_read; intro _)
  cases active : s.hasActiveUnpauseProposal with
  | true => simp only [copy, active]; rfl
  | false => simp only [copy, active]; rfl

/-- `Pausable._unpause` looks at the pause flag once more: its callers have. -/
theorem executeUnpause_mirrors (msg : Message) (paused : s.paused = true) :
    Mirrors (σ := σ) (Escrow.executeUnpause msg s) (executeUnpause msg (copy s)) := by
  repeat (apply mirrors_read; intro _)
  simp only [Mirrors, Escrow.unpausePrimitive, require, paused]
  rfl

private theorem approveUnpause_mirrors (msg : Message) (s : Escrow.World σ) :
    Mirrors (Escrow.approveUnpause msg s) (approveUnpause msg (copy s)) := by
  apply mirrors_read
  intro _
  apply mirrors_require
  intro paused
  repeat (apply mirrors_read; intro _)
  apply mirrors_ite
  · exact executeUnpause_mirrors msg paused
  · exact mirrors_pure _

private theorem cancelUnpauseProposal_mirrors (msg : Message) (s : Escrow.World σ) :
    Mirrors (Escrow.cancelUnpauseProposal msg s) (cancelUnpauseProposal msg (copy s)) := by
  repeat (apply mirrors_read; intro _)
  exact mirrors_pure _

private theorem disableOracleEmergency_mirrors (msg : Message) (s : Escrow.World σ) :
    Mirrors (Escrow.disableOracleEmergency msg s) (disableOracleEmergency msg (copy s)) := by
  repeat (apply mirrors_read; intro _)
  cases down : s.paused with
  | true => simp only [Mirrors, emergencyPause, copy, down]; rfl
  | false =>
    simp only [Mirrors, Escrow.pausePrimitive, Escrow.whenNotPaused, emergencyPause, require, copy, down]
    rfl

end Controls

section Trades

variable (chain : Chain σ Op) (msg : Message) (s : Escrow.World σ)

private theorem safeTransferFrom_mirrors (source : Address) (amount : Nat) :
    Mirrors (Escrow.safeTransferFrom chain source amount s)
      (safeTransferFrom chain source amount (copy s)) := by
  unfold Mirrors safeTransferFrom Escrow.safeTransferFrom
  cases moved : chain.token.transferFrom s.usdc chain.self source chain.self amount with
  | ok usdc => simp only [copy, moved]; rfl
  | error error => simp only [copy, moved]; rfl

private theorem safeTransfer_mirrors (target : Address) (amount : Nat) :
    Mirrors (Escrow.safeTransfer chain target amount s)
      (safeTransfer chain target amount (copy s)) := by
  unfold Mirrors safeTransfer Escrow.safeTransfer
  cases moved : chain.token.transfer s.usdc chain.self target amount with
  | ok usdc => simp only [copy, moved]; rfl
  | error error => simp only [copy, moved]; rfl

private theorem createTrade_mirrors (order : Order) :
    Mirrors (Escrow.createTrade chain msg order s) (createTrade chain msg order (copy s)) := by
  repeat (apply mirrors_read; intro _)
  apply mirrors_bind (safeTransferFrom_mirrors chain _ _ _)
  intro s
  exact mirrors_pure _

theorem accrueClaimable_mirrors (tradeId : Nat) (recipient : Address) (amount : Nat)
    (claimType : ClaimType) :
    Mirrors (Escrow.accrueClaimable tradeId recipient amount claimType s)
      (accrueClaimable tradeId recipient amount claimType (copy s)) := by
  apply mirrors_ite
  · exact mirrors_pure _
  · repeat (apply mirrors_read; intro _)
    exact mirrors_pure _

private theorem claim_mirrors : Mirrors (Escrow.claim chain msg s) (claim chain msg (copy s)) := by
  repeat (apply mirrors_read; intro _)
  apply mirrors_bind (safeTransfer_mirrors chain _ _ _)
  intro s
  exact mirrors_pure _

private theorem releaseFundsStage1_mirrors (tradeId : Nat) :
    Mirrors (Escrow.releaseFundsStage1 msg tradeId s) (releaseFundsStage1 msg tradeId (copy s)) := by
  repeat (apply mirrors_read; intro _)
  apply mirrors_bind (accrueClaimable_mirrors _ _ _ _ _)
  intro s
  apply mirrors_bind (accrueClaimable_mirrors s _ _ _ _)
  intro s
  apply mirrors_bind (accrueClaimable_mirrors s _ _ _ _)
  intro s
  exact mirrors_pure _

private theorem confirmArrival_mirrors (tradeId : Nat) :
    Mirrors (Escrow.confirmArrival msg tradeId s) (confirmArrival msg tradeId (copy s)) := by
  repeat (apply mirrors_read; intro _)
  exact mirrors_pure _

private theorem openDispute_mirrors (tradeId : Nat) :
    Mirrors (Escrow.openDispute msg tradeId s) (openDispute msg tradeId (copy s)) := by
  repeat (apply mirrors_read; intro _)
  exact mirrors_pure _

private theorem finalizeAfterDisputeWindow_mirrors (tradeId : Nat) :
    Mirrors (Escrow.finalizeAfterDisputeWindow msg tradeId s)
      (finalizeAfterDisputeWindow msg tradeId (copy s)) := by
  repeat (apply mirrors_read; intro _)
  apply mirrors_bind (accrueClaimable_mirrors _ _ _ _ _)
  intro s
  exact mirrors_pure _

private theorem cancelLockedTradeAfterTimeout_mirrors (tradeId : Nat) :
    Mirrors (Escrow.cancelLockedTradeAfterTimeout msg tradeId s)
      (cancelLockedTradeAfterTimeout msg tradeId (copy s)) := by
  repeat (apply mirrors_read; intro _)
  apply mirrors_bind (accrueClaimable_mirrors _ _ _ _ _)
  intro s
  exact mirrors_pure _

private theorem refundInTransitAfterTimeout_mirrors (tradeId : Nat) :
    Mirrors (Escrow.refundInTransitAfterTimeout msg tradeId s)
      (refundInTransitAfterTimeout msg tradeId (copy s)) := by
  repeat (apply mirrors_read; intro _)
  apply mirrors_bind (accrueClaimable_mirrors _ _ _ _ _)
  intro s
  exact mirrors_pure _

end Trades

section Disputes

variable (msg : Message) (s : Escrow.World σ)

private theorem vacateDisputeSlot_mirrors (tradeId : Nat) :
    Mirrors (Escrow.vacateDisputeSlot msg tradeId s) (vacateDisputeSlot msg tradeId (copy s)) := by
  apply mirrors_ite
  · apply mirrors_read
    intro _
    exact mirrors_pure _
  · exact mirrors_pure _

private theorem executeDispute_mirrors (proposalId : Nat) :
    Mirrors (Escrow.executeDispute msg proposalId s) (executeDispute msg proposalId (copy s)) := by
  repeat (apply mirrors_read; intro _)
  apply mirrors_bind (accrueClaimable_mirrors _ _ _ _ _)
  intro s
  exact mirrors_pure _

private theorem proposeDisputeSolution_mirrors (tradeId : Nat) (disputeStatus : DisputeStatus) :
    Mirrors (Escrow.proposeDisputeSolution msg tradeId disputeStatus s)
      (proposeDisputeSolution msg tradeId disputeStatus (copy s)) := by
  repeat (apply mirrors_read; intro _)
  apply mirrors_bind (vacateDisputeSlot_mirrors msg s tradeId)
  intro s
  apply mirrors_ite
  · exact executeDispute_mirrors msg _ _
  · exact mirrors_pure _

private theorem approveDisputeSolution_mirrors (proposalId : Nat) :
    Mirrors (Escrow.approveDisputeSolution msg proposalId s)
      (approveDisputeSolution msg proposalId (copy s)) := by
  repeat (apply mirrors_read; intro _)
  apply mirrors_ite
  · exact executeDispute_mirrors msg _ proposalId
  · exact mirrors_pure _

private theorem releaseHeldSlot_copy (proposalId tradeId : Nat) :
    releaseHeldSlot proposalId tradeId (copy s) = copy (Escrow.releaseHeldSlot proposalId tradeId s) := by
  unfold releaseHeldSlot Escrow.releaseHeldSlot
  rw [apply_ite copy]
  rfl

private theorem cancelExpiredDisputeProposal_mirrors (proposalId : Nat) :
    Mirrors (Escrow.cancelExpiredDisputeProposal msg proposalId s)
      (cancelExpiredDisputeProposal msg proposalId (copy s)) := by
  repeat (apply mirrors_read; intro _)
  apply mirrors_emit
  exact releaseHeldSlot_copy { s with dispute := s.dispute.cancel proposalId } proposalId _

end Disputes

section Rotations

variable (msg : Message) (s : Escrow.World σ)

private theorem proposeOracleUpdate_mirrors (newOracle : Address) :
    Mirrors (Escrow.proposeOracleUpdate msg newOracle s)
      (proposeOracleUpdate msg newOracle (copy s)) := by
  repeat (apply mirrors_read; intro _)
  exact mirrors_pure _

private theorem approveOracleUpdate_mirrors (proposalId : Nat) :
    Mirrors (Escrow.approveOracleUpdate msg proposalId s)
      (approveOracleUpdate msg proposalId (copy s)) := by
  repeat (apply mirrors_read; intro _)
  exact mirrors_pure _

private theorem executeOracleUpdate_mirrors (proposalId : Nat) :
    Mirrors (Escrow.executeOracleUpdate msg proposalId s)
      (executeOracleUpdate msg proposalId (copy s)) := by
  repeat (apply mirrors_read; intro _)
  exact mirrors_pure _

private theorem cancelExpiredOracleUpdateProposal_mirrors (proposalId : Nat) :
    Mirrors (Escrow.cancelExpiredOracleUpdateProposal msg proposalId s)
      (cancelExpiredOracleUpdateProposal msg proposalId (copy s)) := by
  repeat (apply mirrors_read; intro _)
  exact mirrors_pure _

private theorem proposeAddAdmin_mirrors (newAdmin : Address) :
    Mirrors (Escrow.proposeAddAdmin msg newAdmin s) (proposeAddAdmin msg newAdmin (copy s)) := by
  repeat (apply mirrors_read; intro _)
  exact mirrors_pure _

private theorem approveAddAdmin_mirrors (proposalId : Nat) :
    Mirrors (Escrow.approveAddAdmin msg proposalId s) (approveAddAdmin msg proposalId (copy s)) := by
  repeat (apply mirrors_read; intro _)
  exact mirrors_pure _

private theorem executeAddAdmin_mirrors (proposalId : Nat) :
    Mirrors (Escrow.executeAddAdmin msg proposalId s) (executeAddAdmin msg proposalId (copy s)) := by
  repeat (apply mirrors_read; intro _)
  exact mirrors_pure _

private theorem cancelExpiredAddAdminProposal_mirrors (proposalId : Nat) :
    Mirrors (Escrow.cancelExpiredAddAdminProposal msg proposalId s)
      (cancelExpiredAddAdminProposal msg proposalId (copy s)) := by
  repeat (apply mirrors_read; intro _)
  exact mirrors_pure _

end Rotations

/-! Whole runs. -/

def Call.production : Call → Escrow.Call
  | .pause => .pause
  | .pauseClaims => .pauseClaims
  | .unpauseClaims => .unpauseClaims
  | .proposeUnpause => .proposeUnpause
  | .approveUnpause => .approveUnpause
  | .cancelUnpauseProposal => .cancelUnpauseProposal
  | .disableOracleEmergency => .disableOracleEmergency
  | .createTrade order => .createTrade order
  | .claim => .claim
  | .releaseFundsStage1 tradeId => .releaseFundsStage1 tradeId
  | .confirmArrival tradeId => .confirmArrival tradeId
  | .openDispute tradeId => .openDispute tradeId
  | .finalizeAfterDisputeWindow tradeId => .finalizeAfterDisputeWindow tradeId
  | .cancelLockedTradeAfterTimeout tradeId => .cancelLockedTradeAfterTimeout tradeId
  | .refundInTransitAfterTimeout tradeId => .refundInTransitAfterTimeout tradeId
  | .proposeDisputeSolution tradeId decision => .proposeDisputeSolution tradeId decision
  | .approveDisputeSolution proposalId => .approveDisputeSolution proposalId
  | .cancelExpiredDisputeProposal proposalId => .cancelExpiredDisputeProposal proposalId
  | .proposeOracleUpdate newOracle => .proposeOracleUpdate newOracle
  | .approveOracleUpdate proposalId => .approveOracleUpdate proposalId
  | .executeOracleUpdate proposalId => .executeOracleUpdate proposalId
  | .cancelExpiredOracleUpdateProposal proposalId => .cancelExpiredOracleUpdateProposal proposalId
  | .proposeAddAdmin newAdmin => .proposeAddAdmin newAdmin
  | .approveAddAdmin proposalId => .approveAddAdmin proposalId
  | .executeAddAdmin proposalId => .executeAddAdmin proposalId
  | .cancelExpiredAddAdminProposal proposalId => .cancelExpiredAddAdminProposal proposalId

def Action.production : Action Op → Escrow.Action Op
  | .escrow msg call => .escrow msg call.production
  | .token msg op => .token msg op

private theorem execute_mirrors (chain : Chain σ Op) (msg : Message) (call : Call) (s : Escrow.World σ) :
    Mirrors (Escrow.execute chain msg call.production s) (execute chain msg call (copy s)) := by
  cases call with
  | pause => exact pause_mirrors msg s
  | pauseClaims => exact pauseClaims_mirrors msg s
  | unpauseClaims => exact unpauseClaims_mirrors msg s
  | proposeUnpause => exact proposeUnpause_mirrors msg s
  | approveUnpause => exact approveUnpause_mirrors msg s
  | cancelUnpauseProposal => exact cancelUnpauseProposal_mirrors msg s
  | disableOracleEmergency => exact disableOracleEmergency_mirrors msg s
  | createTrade order => exact createTrade_mirrors chain msg s order
  | claim => exact claim_mirrors chain msg s
  | releaseFundsStage1 tradeId => exact releaseFundsStage1_mirrors msg s tradeId
  | confirmArrival tradeId => exact confirmArrival_mirrors msg s tradeId
  | openDispute tradeId => exact openDispute_mirrors msg s tradeId
  | finalizeAfterDisputeWindow tradeId => exact finalizeAfterDisputeWindow_mirrors msg s tradeId
  | cancelLockedTradeAfterTimeout tradeId => exact cancelLockedTradeAfterTimeout_mirrors msg s tradeId
  | refundInTransitAfterTimeout tradeId => exact refundInTransitAfterTimeout_mirrors msg s tradeId
  | proposeDisputeSolution tradeId decision =>
    exact proposeDisputeSolution_mirrors msg s tradeId decision
  | approveDisputeSolution proposalId => exact approveDisputeSolution_mirrors msg s proposalId
  | cancelExpiredDisputeProposal proposalId =>
    exact cancelExpiredDisputeProposal_mirrors msg s proposalId
  | proposeOracleUpdate newOracle => exact proposeOracleUpdate_mirrors msg s newOracle
  | approveOracleUpdate proposalId => exact approveOracleUpdate_mirrors msg s proposalId
  | executeOracleUpdate proposalId => exact executeOracleUpdate_mirrors msg s proposalId
  | cancelExpiredOracleUpdateProposal proposalId =>
    exact cancelExpiredOracleUpdateProposal_mirrors msg s proposalId
  | proposeAddAdmin newAdmin => exact proposeAddAdmin_mirrors msg s newAdmin
  | approveAddAdmin proposalId => exact approveAddAdmin_mirrors msg s proposalId
  | executeAddAdmin proposalId => exact executeAddAdmin_mirrors msg s proposalId
  | cancelExpiredAddAdminProposal proposalId =>
    exact cancelExpiredAddAdminProposal_mirrors msg s proposalId

private theorem transact_copy (chain : Chain σ Op) (action : Action Op) (s : Escrow.World σ) :
    transact chain action (copy s) = (Escrow.transact chain action.production s).map copy := by
  cases action with
  | escrow msg call =>
    have executed : execute chain msg call (copy s) = _ := execute_mirrors chain msg call s
    simp only [transact, Escrow.transact, Action.production, executed]
    cases Escrow.execute chain msg call.production s <;> rfl
  | token msg op =>
    cases called : chain.token.call s.usdc msg.sender op with
    | ok usdc => simp only [transact, Escrow.transact, Action.production, copy, called]; rfl
    | error error => simp only [transact, Escrow.transact, Action.production, copy, called]; rfl

private theorem addAdmins_mirrors (admins : List Address) (s : Escrow.World σ) :
    Mirrors (Escrow.addAdmins admins s) (addAdmins admins (copy s)) := by
  induction admins generalizing s with
  | nil => exact mirrors_pure s
  | cons admin rest ih =>
    apply mirrors_read
    intro _
    apply mirrors_read
    intro _
    exact ih _

private theorem deploy_mirrors (config : Config) (usdc : σ) (timestamp : Nat) :
    Mirrors (config.deploy usdc timestamp) (deploy config usdc timestamp) := by
  repeat (apply mirrors_read; intro _)
  exact addAdmins_mirrors config.admins _

/-- The production contract, driven through the calls the copy has. -/
def sharedSystem (chain : Chain σ Op) : System (Escrow.World σ) (Action Op) :=
  (escrowSystem chain).named Action.production

private theorem sharedSystem_step {chain : Chain σ Op} (step : (sharedSystem chain).step s action next) :
    (foundrySystem chain).step (copy s) action (copy next) := by
  obtain ⟨valid, success⟩ := step
  refine ⟨?_, ?_⟩
  · cases action with
    | escrow msg call => exact valid
    | token msg op => exact valid
  · rw [transact_copy, success]
    rfl

private theorem sharedSystem_initial {chain : Chain σ Op} (initial : (sharedSystem chain).initial s) :
    (foundrySystem chain).initial (copy s) := by
  obtain ⟨config, usdc, timestamp, positive, deployed⟩ := initial
  have mirrors : deploy config usdc timestamp = _ := deploy_mirrors config usdc timestamp
  rw [deployed] at mirrors
  exact ⟨config, usdc, timestamp, positive, mirrors⟩

/-- The fuzzed copy is the deployed contract: the constructors accept the same
inputs and start equal, every sequence of attempted transactions gets the same
verdicts and ends equal, and what the copy never violates the production contract
does not violate on the shared calls. -/
theorem fuzzed_copy (chain : Chain σ Op) :
    (∀ (config : Config) (usdc : σ) (timestamp : Nat),
      deploy config usdc timestamp = (config.deploy usdc timestamp).map copy) ∧
    (∀ (actions : List (Action Op)) (s : Escrow.World σ),
      attempts (transact chain) actions (copy s) =
        Prod.map id copy (attempts (Escrow.transact chain) (actions.map Action.production) s)) ∧
    ∀ holds : World σ → Prop, (∀ s, (foundrySystem chain).Reachable s → holds s) →
      ∀ s, (sharedSystem chain).Reachable s → holds (copy s) := by
  refine ⟨deploy_mirrors, attempts_map (transact_copy chain), ?_⟩
  intro holds always s reachable
  apply always
  exact reachable.image (fun _ => sharedSystem_initial) (fun _ _ _ => sharedSystem_step)

open Mock in
/-- A trade, a premature dispute and a second pause, on the copy. -/
theorem rejectedPause_copy : ∃ s, (config [admin1, admin2] 1).deploy usdc 1 = .ok s ∧
    (attempts (Escrow.transact mockChain) [call buyer 1 (.createTrade order),
      call buyer 2 (.openDispute 0), call admin1 3 .pause, call admin1 4 .pause] s).1 =
      [none, some (.require "must be ARRIVAL_CONFIRMED"), none, some (.require "already paused")] := by
  have verdicts : (((config [admin1, admin2] 1).deploy usdc 1).toOption.map fun s =>
      (attempts (transact mockChain) [.escrow ⟨buyer, 1⟩ (.createTrade order),
        .escrow ⟨buyer, 2⟩ (.openDispute 0), .escrow ⟨admin1, 3⟩ .pause,
        .escrow ⟨admin1, 4⟩ .pause] (copy s)).1) =
      some [none, some (.require "must be ARRIVAL_CONFIRMED"), none,
        some (.require "already paused")] := by
    decide +kernel
  cases deployed : (config [admin1, admin2] 1).deploy usdc 1 with
  | error revert => simp [deployed, Except.toOption] at verdicts
  | ok s =>
    simp only [deployed, Except.toOption, Option.map_some, Option.some.injEq] at verdicts
    rw [(fuzzed_copy mockChain).2.1] at verdicts
    exact ⟨s, rfl, verdicts⟩

end Agroasys.Foundry
