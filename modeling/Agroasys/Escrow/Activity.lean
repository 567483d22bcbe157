import Agroasys.Escrow.Rulings

namespace Agroasys.Escrow

open Function Agroasys.Foundation

variable {σ Op : Type}

/-- A dispute proposal was executed by a quorum before its expiry. -/
structure Decided (s : World σ) (now proposalId tradeId : Nat) (decision : DisputeStatus)
    (next : World σ) : Prop where
  known : proposalId < next.dispute.counter
  matter : (next.dispute.proposals proposalId).matter = ⟨tradeId, decision⟩
  executed : (next.dispute.proposals proposalId).executed = true
  quorum : s.requiredApprovals ≤ (next.dispute.proposals proposalId).approvalCount
  unexpired : now ≤ next.dispute.expiresAt proposalId

/-- Who may make a move, and when. -/
def Entitled (s : World σ) (msg : Message) (tradeId : Nat) (next : World σ) : Move → Prop
  | .releaseFundsStage1 | .confirmArrival => msg.sender = s.oracleAddress ∧ s.oracleActive = true
  | .openDispute => msg.sender = (s.trades tradeId).buyerAddress ∧
    (s.trades tradeId).disputeOpen msg.timestamp
  | .finalizeAfterDisputeWindow => (s.trades tradeId).disputeElapsed msg.timestamp
  | .cancelLockedTradeAfterTimeout => msg.sender = (s.trades tradeId).buyerAddress ∧
    (s.trades tradeId).createdAt + lockTimeout < msg.timestamp
  | .refundInTransitAfterTimeout => msg.sender = (s.trades tradeId).buyerAddress ∧
    s.inTransitSince tradeId + inTransitTimeout < msg.timestamp
  | .executeDispute decision => s.isAdmin msg.sender = true ∧
    ∃ proposalId, Decided s msg.timestamp proposalId tradeId decision next

inductive Activity (chain : Chain σ Op) (msg : Message) (s next : World σ) : Prop where
  | quiet (custody : next.custody = s.custody) (usdc : next.usdc = s.usdc)
  | created (order : Order) (created : Created chain s msg order next)
  | advanced (tradeId : Nat) (move : Move) (advanced : Advanced s msg.timestamp tradeId move next)
      (entitled : Entitled s msg tradeId next move)
  | withdrawn (account receiver : Address) (withdrawn : Withdrawn chain s account receiver next)

/-- The entries of trades not created yet are zero. -/
def World.Unopened (s : World σ) : Prop :=
  ∀ tradeId, s.tradeCounter ≤ tradeId → s.trades tradeId = default ∧ s.inTransitSince tradeId = 0

theorem World.Unopened.known {s : World σ} (unopened : s.Unopened)
    (status : (s.trades tradeId).status ≠ .locked) : tradeId < s.tradeCounter := by
  rcases Nat.lt_or_ge tradeId s.tradeCounter with known | beyond
  · exact known
  · rw [(unopened tradeId beyond).1] at status
    exact absurd rfl status

theorem Undecided.trades {s next : World σ} (undecided : Undecided s next) : next.trades = s.trades :=
  congrArg Custody.trades undecided.custody

theorem Undecided.trans {s middle next : World σ} (first : Undecided s middle)
    (second : Undecided middle next) : Undecided s next :=
  ⟨second.custody.trans first.custody, second.usdc.trans first.usdc, second.nonces.trans first.nonces,
    second.unruled.parameters.trans first.unruled.parameters,
    second.unruled.governance.trans first.unruled.governance⟩

/-- A settlement after changes of proposals only is a move of the original state. -/
theorem Settled.advanced {s middle next : World σ} (settled : Settled middle now proposalId next)
    (undecided : Undecided s middle) (unpaused : s.paused = false)
    (matter : (middle.dispute.proposals proposalId).matter = ⟨tradeId, decision⟩)
    (known : tradeId < s.tradeCounter) :
    Advanced s now tradeId (.executeDispute decision) next := by
  have frozen := settled.frozen
  have custody := settled.custody
  have treasury : middle.treasuryAddress = s.treasuryAddress :=
    congrArg Parameters.treasuryAddress undecided.unruled.parameters
  rw [matter, undecided.trades] at frozen
  rw [matter, undecided.custody, treasury] at custody
  exact ⟨unpaused, known, frozen, custody, settled.usdc.trans undecided.usdc,
    settled.nonces.trans undecided.nonces,
    settled.unruled.parameters.trans undecided.unruled.parameters,
    settled.unruled.governance.trans undecided.unruled.governance⟩

private theorem Settled.decided {s middle next : World σ} (settled : Settled middle now proposalId next)
    (undecided : Undecided s middle) (known : proposalId < middle.dispute.counter)
    (matter : (middle.dispute.proposals proposalId).matter = ⟨tradeId, decision⟩) :
    Decided s now proposalId tradeId decision next := by
  have quorum := settled.quorum
  rw [undecided.unruled.parameters] at quorum
  constructor <;> rw [settled.dispute]
  · exact known
  · simpa using matter
  · simp
  · simpa using quorum
  · exact settled.unexpired

private theorem proposeDisputeSolution_activity {chain : Chain σ Op} {s next : World σ}
    (success : proposeDisputeSolution msg tradeId decision s = .ok next) :
    Activity chain msg s next := by
  obtain ⟨admin, unpaused, known, _, vacated, vacates, rest⟩ := proposeDisputeSolution_effect success
  have undecided : Undecided s (recordDisputeProposal msg tradeId decision vacated) :=
    vacates.undecided.trans (recordDisputeProposal_undecided _ _ _ vacated)
  rcases rest with rfl | settled
  · exact .quiet undecided.custody undecided.usdc
  · have matter : ((recordDisputeProposal msg tradeId decision vacated).dispute.proposals
        vacated.dispute.counter).matter = ⟨tradeId, decision⟩ := by
      simp [recordDisputeProposal, World.emit]
    have recorded : vacated.dispute.counter <
        (recordDisputeProposal msg tradeId decision vacated).dispute.counter := Nat.lt_succ_self _
    exact .advanced tradeId (.executeDispute decision)
      (settled.advanced undecided unpaused matter known)
      ⟨admin, _, settled.decided undecided recorded matter⟩

private theorem approveDisputeSolution_activity {chain : Chain σ Op} {s next : World σ}
    (unopened : s.Unopened) (success : approveDisputeSolution msg proposalId s = .ok next) :
    Activity chain msg s next := by
  obtain ⟨admin, unpaused, live, _, frozen, rest⟩ := approveDisputeSolution_effect success
  have undecided := recordDisputeApproval_undecided msg proposalId s
  rcases rest with rfl | settled
  · exact .quiet undecided.custody undecided.usdc
  · have matter : ((recordDisputeApproval msg proposalId s).dispute.proposals proposalId).matter =
        (s.dispute.proposals proposalId).matter := by
      simp [recordDisputeApproval, World.emit]
    have known : (s.dispute.proposals proposalId).matter.tradeId < s.tradeCounter :=
      unopened.known (by rw [frozen]; decide)
    exact .advanced _ (.executeDispute _) (settled.advanced undecided unpaused matter known)
      ⟨admin, proposalId, settled.decided undecided live.known matter⟩

/-- Calls on trades, disputes and claims leave roles and switches alone. -/
theorem execute_settles {chain : Chain σ Op} {s next : World σ} {call : Call} (unopened : s.Unopened)
    (settles : call.settles = true) (success : execute chain msg call s = .ok next) :
    Activity chain msg s next ∧ Unruled s next := by
  cases call with
  | createTrade order =>
    obtain ⟨created, _, unruled⟩ := createTrade_effect success
    exact ⟨.created order created, unruled⟩
  | claim =>
    obtain ⟨withdrawn, _, unruled⟩ := claim_effect success
    exact ⟨.withdrawn _ _ withdrawn, unruled⟩
  | claimTreasury =>
    obtain ⟨withdrawn, _, unruled⟩ := claimTreasury_effect success
    exact ⟨.withdrawn _ _ withdrawn, unruled⟩
  | releaseFundsStage1 tradeId =>
    obtain ⟨advanced, _, sender, active⟩ := releaseFundsStage1_effect success
    exact ⟨.advanced tradeId .releaseFundsStage1 advanced ⟨sender, active⟩, advanced.unruled⟩
  | confirmArrival tradeId =>
    obtain ⟨advanced, _, sender, active⟩ := confirmArrival_effect success
    exact ⟨.advanced tradeId .confirmArrival advanced ⟨sender, active⟩, advanced.unruled⟩
  | openDispute tradeId =>
    obtain ⟨advanced, _, buyer, window⟩ := openDispute_effect success
    exact ⟨.advanced tradeId .openDispute advanced ⟨buyer.symm, window⟩, advanced.unruled⟩
  | finalizeAfterDisputeWindow tradeId =>
    obtain ⟨advanced, _, window⟩ := finalizeAfterDisputeWindow_effect success
    exact ⟨.advanced tradeId .finalizeAfterDisputeWindow advanced window, advanced.unruled⟩
  | cancelLockedTradeAfterTimeout tradeId =>
    obtain ⟨advanced, _, buyer, elapsed⟩ := cancelLockedTradeAfterTimeout_effect success
    exact ⟨.advanced tradeId .cancelLockedTradeAfterTimeout advanced ⟨buyer.symm, elapsed⟩,
      advanced.unruled⟩
  | refundInTransitAfterTimeout tradeId =>
    obtain ⟨advanced, _, buyer, elapsed⟩ := refundInTransitAfterTimeout_effect success
    exact ⟨.advanced tradeId .refundInTransitAfterTimeout advanced ⟨buyer.symm, elapsed⟩,
      advanced.unruled⟩
  | proposeDisputeSolution tradeId decision =>
    refine ⟨proposeDisputeSolution_activity success, ?_⟩
    obtain ⟨_, _, _, _, vacated, vacates, rest⟩ := proposeDisputeSolution_effect success
    have undecided := vacates.undecided.trans
      (recordDisputeProposal_undecided msg tradeId decision vacated)
    rcases rest with rfl | settled
    · exact undecided.unruled
    · exact ⟨settled.unruled.parameters.trans undecided.unruled.parameters,
        settled.unruled.governance.trans undecided.unruled.governance⟩
  | approveDisputeSolution proposalId =>
    refine ⟨approveDisputeSolution_activity unopened success, ?_⟩
    obtain ⟨_, _, _, _, _, rest⟩ := approveDisputeSolution_effect success
    rcases rest with rfl | settled
    · exact ⟨rfl, rfl⟩
    · exact ⟨settled.unruled.parameters, settled.unruled.governance⟩
  | cancelExpiredDisputeProposal proposalId =>
    obtain ⟨_, _, _, _, _, _, undecided, _⟩ := cancelExpiredDisputeProposal_effect success
    exact ⟨.quiet undecided.custody undecided.usdc, undecided.unruled⟩
  | _ => simp [Call.settles] at settles

/-- Whose entry a call pays out, and to whom. -/
def Call.payout? (msg : Message) (s : World σ) : Call → Option (Address × Address)
  | .claim => some (msg.sender, msg.sender)
  | .claimTreasury => some (s.treasuryAddress, s.treasuryPayoutAddress)
  | _ => none

/-- A call on trades, disputes or claims by what it does, with the call itself. -/
inductive Settling (chain : Chain σ Op) (msg : Message) (s : World σ) : Call → World σ → Prop where
  | created (order : Order) (created : Created chain s msg order next) :
      Settling chain msg s (.createTrade order) next
  | paid (payout : call.payout? msg s = some (account, receiver))
      (withdrawn : Withdrawn chain s account receiver next) (undisputed : Undisputed s next) :
      Settling chain msg s call next
  | moved (ordinary : call.payout? msg s = none) (placed : ∀ order, call ≠ .createTrade order)
      (advanced : Advanced s msg.timestamp tradeId move next) : Settling chain msg s call next
  | decided (ordinary : call.payout? msg s = none) (placed : ∀ order, call ≠ .createTrade order)
      (unpaused : s.paused = false) (undecided : Undecided s middle)
      (settled : next = middle ∨ ∃ proposalId, Settled middle msg.timestamp proposalId next) :
      Settling chain msg s call next

theorem execute_settling {chain : Chain σ Op} {s next : World σ} {call : Call}
    (settles : call.settles = true) (success : execute chain msg call s = .ok next) :
    Settling chain msg s call next := by
  cases call with
  | createTrade order => exact .created order (createTrade_effect success).1
  | claim =>
    obtain ⟨withdrawn, undisputed, _⟩ := claim_effect success
    exact .paid rfl withdrawn undisputed
  | claimTreasury =>
    obtain ⟨withdrawn, undisputed, _⟩ := claimTreasury_effect success
    exact .paid rfl withdrawn undisputed
  | releaseFundsStage1 tradeId => exact .moved rfl nofun (releaseFundsStage1_effect success).1
  | confirmArrival tradeId => exact .moved rfl nofun (confirmArrival_effect success).1
  | openDispute tradeId => exact .moved rfl nofun (openDispute_effect success).1
  | finalizeAfterDisputeWindow tradeId =>
    exact .moved rfl nofun (finalizeAfterDisputeWindow_effect success).1
  | cancelLockedTradeAfterTimeout tradeId =>
    exact .moved rfl nofun (cancelLockedTradeAfterTimeout_effect success).1
  | refundInTransitAfterTimeout tradeId =>
    exact .moved rfl nofun (refundInTransitAfterTimeout_effect success).1
  | proposeDisputeSolution tradeId decision =>
    obtain ⟨_, unpaused, _, _, vacated, vacates, rest⟩ := proposeDisputeSolution_effect success
    have recorded := recordDisputeProposal_undecided msg tradeId decision vacated
    refine .decided rfl nofun unpaused (vacates.undecided.trans recorded) ?_
    exact rest.imp id fun settled => ⟨_, settled⟩
  | approveDisputeSolution proposalId =>
    obtain ⟨_, unpaused, _, _, _, rest⟩ := approveDisputeSolution_effect success
    refine .decided rfl nofun unpaused (recordDisputeApproval_undecided msg proposalId s) ?_
    exact rest.imp id fun settled => ⟨_, settled⟩
  | cancelExpiredDisputeProposal proposalId =>
    obtain ⟨_, unpaused, _, _, _, _, undecided, _⟩ := cancelExpiredDisputeProposal_effect success
    exact .decided rfl nofun unpaused undecided (.inl rfl)
  | _ => simp [Call.settles] at settles

end Agroasys.Escrow
