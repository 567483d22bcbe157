import Agroasys.Escrow.MockUSDC

/-! The claim ledger as a reader of the event log keeps it: every event about
claims posts its amount, and the balances posted are those in storage. -/

namespace Agroasys.Escrow

open Function Agroasys.Foundation

variable {σ Op : Type} {chain : Chain σ Op}

/-- The events that move claims. -/
inductive ClaimEvent where
  | accrued (recipient : Address) (amount : Nat)
  | claimed (claimant : Address) (amount : Nat)
  | treasuryClaimed (treasuryIdentity : Address) (amount : Nat)
  deriving DecidableEq

def Event.claim? : Event → Option ClaimEvent
  | .claimableAccrued _ recipient amount _ => some (.accrued recipient amount)
  | .claimed claimant amount => some (.claimed claimant amount)
  | .treasuryClaimed treasuryIdentity _ amount _ => some (.treasuryClaimed treasuryIdentity amount)
  | _ => none

def World.claimEvents (s : World σ) : List ClaimEvent := s.events.filterMap Event.claim?

namespace ClaimEvent

def posting : ClaimEvent → Posting Address
  | accrued recipient amount => .credit recipient amount
  | claimed claimant amount => .debit claimant amount
  | treasuryClaimed treasuryIdentity amount => .debit treasuryIdentity amount

def accruedTo (account : Address) : ClaimEvent → Nat
  | accrued recipient amount => if recipient = account then amount else 0
  | _ => 0

def claimedBy (account : Address) : ClaimEvent → Nat
  | claimed claimant amount => if claimant = account then amount else 0
  | _ => 0

/-- Whatever identity the event names. -/
def swept : ClaimEvent → Nat
  | treasuryClaimed _ amount => amount
  | _ => 0

end ClaimEvent

/-- The claim events of a step account for all it does to the claims. -/
def Posted (s next : World σ) : Prop :=
  ∃ entries : List ClaimEvent, next.claimEvents = s.claimEvents ++ entries ∧
    postAll s.claimableUsdc (entries.map ClaimEvent.posting) = some next.claimableUsdc ∧
    ∀ treasuryIdentity amount, .treasuryClaimed treasuryIdentity amount ∈ entries →
      treasuryIdentity = s.treasuryAddress

section Posted

variable {s middle next : World σ}

private theorem Posted.refl (s : World σ) : Posted s s := ⟨[], by simp, rfl, by simp⟩

theorem Posted.trans (first : Posted s middle) (second : Posted middle next)
    (parameters : middle.toParameters = s.toParameters) : Posted s next := by
  obtain ⟨earlier, logged, posted, identities⟩ := first
  obtain ⟨later, appended, continued, others⟩ := second
  refine ⟨earlier ++ later, ?_, ?_, ?_⟩
  · rw [appended, logged, List.append_assoc]
  · rw [List.map_append]
    exact postAll_append posted continued
  · intro treasuryIdentity amount member
    rcases List.mem_append.mp member with member | member
    · exact identities _ _ member
    · rw [others _ _ member, parameters]

/-- Neither the claims nor the claim events changed. -/
theorem Posted.quiet (logged : next.claimEvents = s.claimEvents)
    (kept : next.claimableUsdc = s.claimableUsdc) : Posted s next :=
  ⟨[], by simp [logged], by rw [kept]; rfl, by simp⟩

theorem emit_claimEvents (s : World σ) (quiet : events.filterMap Event.claim? = []) :
    (s.emit events).claimEvents = s.claimEvents := by
  simp [World.claimEvents, quiet]

theorem Posted.emit (posted : Posted s next) (quiet : events.filterMap Event.claim? = []) :
    Posted s (next.emit events) := by
  obtain ⟨entries, logged, rest⟩ := posted
  exact ⟨entries, (emit_claimEvents next quiet).trans logged, rest⟩

theorem posted_credited (s : World σ) (tradeId : Nat) (payout : Payout) :
    Posted s (credited tradeId payout s) := by
  by_cases zero : payout.amount = 0
  · apply Posted.quiet
    · simp [World.claimEvents, credited, zero]
    · simp [credited, zero]
  · refine ⟨[.accrued payout.recipient payout.amount], ?_, ?_, by simp⟩
    · simp [World.claimEvents, credited, zero, Event.claim?]
    · rfl

/-- A payout posts its whole amount. -/
theorem posted_payout (claimEvent : ClaimEvent) (logged : next.claimEvents = s.claimEvents ++ [claimEvent])
    (posting : claimEvent.posting = .debit account (s.claimableUsdc account))
    (emptied : next.claimableUsdc = update s.claimableUsdc account 0)
    (identity : ∀ treasuryIdentity amount, claimEvent = .treasuryClaimed treasuryIdentity amount →
      treasuryIdentity = s.treasuryAddress) : Posted s next := by
  refine ⟨[claimEvent], logged, ?_, ?_⟩
  · rw [emptied, List.map_singleton, posting]
    simp [postAll, Posting.post]
  · intro treasuryIdentity amount member
    exact identity _ _ (List.mem_singleton.mp member).symm

end Posted

section Calls

variable {s next : World σ}

private theorem createTrade_posted (success : createTrade chain msg order s = .ok next) : Posted s next := by
  simp only [createTrade, whenNotPaused, bind_eq_ok, require_eq_ok, exists_const, checkedAdd_eq_ok,
    verifySignature_eq_ok, safeTransferFrom_eq_ok, pure_eq_ok] at success
  obtain ⟨_, _, _, _, ⟨_, rfl⟩, _, ⟨_, rfl⟩, _, ⟨_, rfl⟩, _, _, _, _, _, rfl, _, ⟨_, _, rfl⟩, rfl⟩ := success
  exact .quiet (emit_claimEvents _ rfl) rfl

private theorem claim_posted (success : claim chain msg s = .ok next) : Posted s next := by
  simp only [claim, whenClaimsNotPaused, bind_eq_ok, require_eq_ok, exists_const, checkedSub_eq_ok,
    safeTransfer_eq_ok, pure_eq_ok] at success
  obtain ⟨_, _, _, ⟨_, rfl⟩, _, ⟨_, _, rfl⟩, rfl⟩ := success
  refine posted_payout (.claimed msg.sender (s.claimableUsdc msg.sender)) ?_ rfl rfl ?_
  · simp [World.claimEvents, Event.claim?]
  · simp

private theorem claimTreasury_posted (success : claimTreasury chain msg s = .ok next) : Posted s next := by
  simp only [claimTreasury, whenClaimsNotPaused, bind_eq_ok, require_eq_ok, exists_const,
    checkedSub_eq_ok, safeTransfer_eq_ok, pure_eq_ok] at success
  obtain ⟨_, _, _, _, ⟨_, rfl⟩, _, ⟨_, _, rfl⟩, rfl⟩ := success
  refine posted_payout (.treasuryClaimed s.treasuryAddress
    (s.claimableUsdc s.treasuryAddress)) ?_ rfl rfl ?_
  · simp [World.claimEvents, Event.claim?]
  · intro treasuryIdentity amount same
    cases same
    rfl

private theorem releaseFundsStage1_posted (success : releaseFundsStage1 msg tradeId s = .ok next) :
    Posted s next := by
  simp only [releaseFundsStage1, onlyOracle, onlyOracleActive, whenNotPaused, bind_eq_ok,
    require_eq_ok, exists_const, accrueClaimable_eq_ok, pure_eq_ok] at success
  obtain ⟨_, _, _, _, _, _, ⟨_, rfl⟩, _, ⟨_, rfl⟩, _, ⟨_, rfl⟩, rfl⟩ := success
  have moved : Posted s (setInTransitSince tradeId msg.timestamp (setStatus tradeId .inTransit s)) :=
    .quiet rfl rfl
  have tranche := moved.trans (posted_credited _ tradeId ⟨(s.trades tradeId).supplierAddress,
    (s.trades tradeId).supplierFirstTranche, .stage1Supplier⟩) rfl
  have logistics := tranche.trans (posted_credited _ tradeId ⟨s.treasuryAddress,
    (s.trades tradeId).logisticsAmount, .stage1LogisticsFee⟩) rfl
  have fees := logistics.trans (posted_credited _ tradeId ⟨s.treasuryAddress,
    (s.trades tradeId).platformFeesAmount, .stage1PlatformFee⟩) rfl
  exact fees.emit rfl

private theorem confirmArrival_posted (success : confirmArrival msg tradeId s = .ok next) : Posted s next := by
  simp only [confirmArrival, onlyOracle, onlyOracleActive, whenNotPaused, bind_eq_ok,
    require_eq_ok, exists_const, pure_eq_ok] at success
  obtain ⟨_, _, _, _, _, rfl⟩ := success
  exact .quiet (emit_claimEvents _ rfl) rfl

private theorem openDispute_posted (success : openDispute msg tradeId s = .ok next) : Posted s next := by
  simp only [openDispute, whenNotPaused, bind_eq_ok, require_eq_ok, exists_const,
    pure_eq_ok] at success
  obtain ⟨_, _, _, _, _, _, rfl⟩ := success
  exact .quiet (emit_claimEvents _ rfl) rfl

private theorem finalizeAfterDisputeWindow_posted
    (success : finalizeAfterDisputeWindow msg tradeId s = .ok next) : Posted s next := by
  simp only [finalizeAfterDisputeWindow, whenNotPaused, bind_eq_ok, require_eq_ok, exists_const,
    accrueClaimable_eq_ok, pure_eq_ok] at success
  obtain ⟨_, _, _, _, _, _, ⟨_, rfl⟩, rfl⟩ := success
  have moved : Posted s (setInTransitSince tradeId 0 (setStatus tradeId .closed s)) := .quiet rfl rfl
  exact (moved.trans (posted_credited _ tradeId _) rfl).emit rfl

private theorem cancelLockedTradeAfterTimeout_posted
    (success : cancelLockedTradeAfterTimeout msg tradeId s = .ok next) : Posted s next := by
  simp only [cancelLockedTradeAfterTimeout, whenNotPaused, bind_eq_ok, require_eq_ok, exists_const,
    accrueClaimable_eq_ok, pure_eq_ok] at success
  obtain ⟨_, _, _, _, _, _, ⟨_, rfl⟩, rfl⟩ := success
  have moved : Posted s (setStatus tradeId .closed s) := .quiet rfl rfl
  exact (moved.trans (posted_credited _ tradeId _) rfl).emit rfl

private theorem refundInTransitAfterTimeout_posted
    (success : refundInTransitAfterTimeout msg tradeId s = .ok next) : Posted s next := by
  simp only [refundInTransitAfterTimeout, whenNotPaused, bind_eq_ok, require_eq_ok, exists_const,
    accrueClaimable_eq_ok, pure_eq_ok] at success
  obtain ⟨_, _, _, _, _, _, _, ⟨_, rfl⟩, rfl⟩ := success
  have moved : Posted s (setInTransitSince tradeId 0 (setStatus tradeId .closed s)) := .quiet rfl rfl
  exact (moved.trans (posted_credited _ tradeId _) rfl).emit rfl

private theorem executeDispute_posted (success : executeDispute msg proposalId s = .ok next) :
    Posted s next := by
  simp only [executeDispute, bind_eq_ok, require_eq_ok, exists_const, accrueClaimable_eq_ok,
    pure_eq_ok] at success
  obtain ⟨_, _, _, _, _, _, ⟨_, rfl⟩, rfl⟩ := success
  refine Posted.emit ?_ rfl
  apply Posted.trans _ (posted_credited _ _ _)
  · rfl
  · exact .quiet rfl rfl

private theorem vacateDisputeSlot_posted (success : vacateDisputeSlot msg tradeId s = .ok next) :
    Posted s next := by
  unfold vacateDisputeSlot at success
  split at success
  · simp only [bind_eq_ok, require_eq_ok, exists_const, pure_eq_ok] at success
    obtain ⟨_, rfl⟩ := success
    exact .quiet (emit_claimEvents _ rfl) rfl
  · cases pure_eq_ok.mp success
    exact .refl s

private theorem proposeDisputeSolution_posted
    (success : proposeDisputeSolution msg tradeId decision s = .ok next) : Posted s next := by
  simp only [proposeDisputeSolution, onlyAdmin, whenNotPaused, bind_eq_ok, require_eq_ok,
    exists_const] at success
  obtain ⟨_, _, _, _, vacated, vacates, rest⟩ := success
  have parameters := (vacateDisputeSlot_effect vacates).undecided.unruled.parameters
  have recorded : Posted vacated (recordDisputeProposal msg tradeId decision vacated) :=
    .quiet (emit_claimEvents _ rfl) rfl
  have filed := (vacateDisputeSlot_posted vacates).trans recorded parameters
  split at rest
  · exact filed.trans (executeDispute_posted rest) parameters
  · cases pure_eq_ok.mp rest
    exact filed

private theorem approveDisputeSolution_posted (success : approveDisputeSolution msg proposalId s = .ok next) :
    Posted s next := by
  simp only [approveDisputeSolution, onlyAdmin, whenNotPaused, bind_eq_ok, require_eq_ok,
    exists_const] at success
  obtain ⟨_, _, _, _, _, _, _, _, _, rest⟩ := success
  have approved : Posted s (recordDisputeApproval msg proposalId s) := .quiet (emit_claimEvents _ rfl) rfl
  split at rest
  · exact approved.trans (executeDispute_posted rest) rfl
  · cases pure_eq_ok.mp rest
    exact approved

private theorem cancelExpiredDisputeProposal_posted
    (success : cancelExpiredDisputeProposal msg proposalId s = .ok next) : Posted s next := by
  simp only [cancelExpiredDisputeProposal, onlyAdmin, whenNotPaused, bind_eq_ok, require_eq_ok,
    exists_const, pure_eq_ok] at success
  obtain ⟨_, _, _, _, _, _, _, rfl⟩ := success
  refine Posted.emit ?_ rfl
  unfold releaseHeldSlot
  split
  · exact .quiet rfl rfl
  · exact .quiet rfl rfl

end Calls

/-- Whatever the action yields satisfies `post`. -/
structure Yields (post : α → Prop) (action : Except Revert α) : Prop where
  holds : ∀ value, action = .ok value → post value

section Yields

variable {post : α → Prop}

@[simp] theorem yields_pure {value : α} : Yields post (pure value) ↔ post value := by
  constructor
  · intro yields
    exact yields.holds value rfl
  · intro held
    constructor
    intro other same
    cases pure_eq_ok.mp same
    exact held

@[simp] theorem yields_require {condition : Prop} [Decidable condition] {post : Unit → Prop} :
    Yields post (require condition message) ↔ (condition → post ()) := by
  constructor
  · intro yields passed
    exact yields.holds () (require_eq_ok.mpr passed)
  · intro held
    constructor
    intro _ success
    exact held (require_eq_ok.mp success)

@[simp] theorem yields_bind {action : Except Revert β} {next : β → Except Revert α} :
    Yields post (action >>= next) ↔ Yields (fun value => Yields post (next value)) action := by
  constructor
  · intro yields
    constructor
    intro value success
    constructor
    intro result final
    exact yields.holds result (bind_eq_ok.mpr ⟨value, success, final⟩)
  · intro yields
    constructor
    intro result success
    obtain ⟨value, first, final⟩ := bind_eq_ok.mp success
    exact (yields.holds value first).holds result final

@[simp] theorem yields_ite {condition : Prop} [Decidable condition] {first second : Except Revert α} :
    Yields post (if condition then first else second) ↔
      (condition → Yields post first) ∧ (¬ condition → Yields post second) := by
  split <;> simp_all

end Yields

section Governance

variable (msg : Message) (s : World σ)

private theorem cancelUnpause_unlogged : (cancelUnpause msg s).claimEvents = s.claimEvents :=
  emit_claimEvents _ rfl

private theorem recordUnpauseApproval_unlogged : (recordUnpauseApproval msg s).claimEvents = s.claimEvents :=
  emit_claimEvents _ rfl

/-- A proposal replaces the one before it, if it is still open. -/
theorem replaceUnpause_unlogged :
    (if s.hasActiveUnpauseProposal then cancelUnpause msg s else s).claimEvents = s.claimEvents := by
  split
  · exact cancelUnpause_unlogged msg s
  · rfl

/-- The calls on roles, switches and rotations emit no claim events. -/
theorem governance_unlogged (governs : call.settles = false) :
    Yields (fun next => next.claimEvents = s.claimEvents) (execute chain msg call s) := by
  have replaced := replaceUnpause_unlogged msg s
  have cancelled := cancelUnpause_unlogged msg s
  have recorded := recordUnpauseApproval_unlogged msg s
  simp only [World.claimEvents] at replaced cancelled recorded ⊢
  cases call with
  | createTrade | claim | claimTreasury | releaseFundsStage1 | confirmArrival | openDispute
  | finalizeAfterDisputeWindow | cancelLockedTradeAfterTimeout | refundInTransitAfterTimeout
  | proposeDisputeSolution | approveDisputeSolution | cancelExpiredDisputeProposal => cases governs
  | _ =>
    simp only [execute, pause, pauseClaims, unpauseClaims, proposeUnpause, approveUnpause,
      cancelUnpauseProposal, executeUnpause, pausePrimitive, unpausePrimitive, disableOracleEmergency,
      onlyAdmin, whenNotPaused, requireLive, requireExecutable, approveProposal, cancelExpiredProposal,
      proposeOracleUpdate, approveOracleUpdate, executeOracleUpdate, cancelExpiredOracleUpdateProposal,
      proposeAddAdmin, approveAddAdmin, executeAddAdmin, cancelExpiredAddAdminProposal,
      proposeTreasuryPayoutAddressUpdate, approveTreasuryPayoutAddressUpdate,
      executeTreasuryPayoutAddressUpdate, cancelExpiredTreasuryPayoutAddressUpdateProposal,
      yields_bind, yields_require, yields_ite, yields_pure, World.emit_events, List.filterMap_append,
      replaced, cancelled, recorded]
    intros
    simp [Event.claim?]

end Governance

private theorem execute_posted {s next : World σ} {call : Call} (success : execute chain msg call s = .ok next) :
    Posted s next := by
  cases settles : call.settles with
  | false =>
    have kept := (execute_governed settles success).settlement
    exact .quiet ((governance_unlogged msg s settles).holds next success)
      (congrArg Settlement.claimableUsdc kept)
  | true =>
    cases call with
    | createTrade order => exact createTrade_posted success
    | claim => exact claim_posted success
    | claimTreasury => exact claimTreasury_posted success
    | releaseFundsStage1 tradeId => exact releaseFundsStage1_posted success
    | confirmArrival tradeId => exact confirmArrival_posted success
    | openDispute tradeId => exact openDispute_posted success
    | finalizeAfterDisputeWindow tradeId => exact finalizeAfterDisputeWindow_posted success
    | cancelLockedTradeAfterTimeout tradeId => exact cancelLockedTradeAfterTimeout_posted success
    | refundInTransitAfterTimeout tradeId => exact refundInTransitAfterTimeout_posted success
    | proposeDisputeSolution tradeId decision => exact proposeDisputeSolution_posted success
    | approveDisputeSolution proposalId => exact approveDisputeSolution_posted success
    | cancelExpiredDisputeProposal proposalId => exact cancelExpiredDisputeProposal_posted success
    | _ => simp [Call.settles] at settles

/-- The claims are what the claim events post, and sweeps name the treasury. -/
structure Kept (s : World σ) : Prop where
  posted : postAll (fun _ => 0) (s.claimEvents.map ClaimEvent.posting) = some s.claimableUsdc
  identities : ∀ treasuryIdentity amount, .treasuryClaimed treasuryIdentity amount ∈ s.claimEvents →
    treasuryIdentity = s.treasuryAddress

private theorem Posted.kept {s next : World σ} (posted : Posted s next) (kept : Kept s)
    (parameters : next.toParameters = s.toParameters) : Kept next := by
  obtain ⟨entries, logged, continued, identities⟩ := posted
  constructor
  · rw [logged, List.map_append]
    exact postAll_append kept.posted continued
  · intro treasuryIdentity amount member
    rw [parameters]
    rw [logged] at member
    rcases List.mem_append.mp member with member | member
    · exact kept.identities _ _ member
    · exact identities _ _ member

private theorem run_kept (run : (escrowSystem chain).Run history s) : Kept s := by
  apply run.history_invariant (P := fun _ s => Kept s)
  · intro origin deployed
    obtain ⟨config, deployed⟩ := deployed
    obtain ⟨_, _, rfl⟩ := deployed.world
    exact ⟨rfl, by simp [World.claimEvents, Config.world]⟩
  · intro earlier s action next before step kept
    have parameters := (step_transacted (run_established before).unopened step).parameters
    obtain ⟨_, _, ⟨msg, call, result, rfl, success, rfl⟩ | ⟨msg, op, usdc, rfl, _, _, rfl⟩⟩ :=
      step_cases step
    · obtain ⟨posted, identities⟩ := (execute_posted success).kept kept parameters
      exact ⟨posted, identities⟩
    · exact ⟨kept.posted, kept.identities⟩

namespace ClaimEvent

private theorem credits_eq (events : List ClaimEvent) (account : Address) :
    ((events.map posting).map (Posting.creditTo account)).sum = (events.map (accruedTo account)).sum := by
  rw [List.map_map]
  congr 2
  funext event
  cases event <;> rfl

/-- Debits are claims of the account, and sweeps if it is the treasury. -/
theorem debits_eq {events : List ClaimEvent} (account treasury : Address)
    (identities : ∀ treasuryIdentity amount, .treasuryClaimed treasuryIdentity amount ∈ events →
      treasuryIdentity = treasury) :
    ((events.map posting).map (Posting.debitTo account)).sum = (events.map (claimedBy account)).sum +
      if account = treasury then (events.map swept).sum else 0 := by
  induction events with
  | nil => simp
  | cons event rest ih =>
    have tail := ih fun _ _ member => identities _ _ (List.mem_cons_of_mem _ member)
    simp only [List.map_cons, List.sum_cons, tail]
    cases event with
    | accrued recipient amount => simp [posting, Posting.debitTo, claimedBy, swept]
    | claimed claimant amount =>
      simp only [posting, Posting.debitTo, claimedBy, swept, Nat.zero_add]
      omega
    | treasuryClaimed treasuryIdentity amount =>
      have named := identities _ _ List.mem_cons_self
      by_cases same : account = treasury
      · simp only [posting, Posting.debitTo, claimedBy, swept, named, same, ↓reduceIte]
        omega
      · simp [posting, Posting.debitTo, claimedBy, named, same, Ne.symm same]

end ClaimEvent

/-- What the events accrued to an account is what they claimed for it, in either
way, and what it may still claim; and the events alone give every claim. -/
theorem claim_ledger (run : (escrowSystem chain).Run history s) (account : Address) :
    (s.claimEvents.map (ClaimEvent.accruedTo account)).sum =
        (s.claimEvents.map (ClaimEvent.claimedBy account)).sum +
          (if account = s.treasuryAddress then (s.claimEvents.map ClaimEvent.swept).sum else 0) +
          s.claimableUsdc account ∧
      postAll (fun _ => 0) (s.claimEvents.map ClaimEvent.posting) = some s.claimableUsdc := by
  obtain ⟨posted, identities⟩ := run_kept run
  have balance := postAll_balance posted account
  rw [ClaimEvent.credits_eq, ClaimEvent.debits_eq account s.treasuryAddress identities] at balance
  exact ⟨by simpa using balance, posted⟩

open Mock in
/-- The treasury's claim is paid out both ways. -/
theorem treasuryPaid_ledger : ∃ s, scenario (config [admin1, admin2] 1)
    [call buyer 1 (.createTrade order), call oracle 2 (.releaseFundsStage1 0), call treasury 3 .claim,
      call buyer 4 (.createTrade { order with buyerNonce := 1 }), call oracle 5 (.releaseFundsStage1 1),
      call supplier 6 .claimTreasury] = some s ∧
      (s.claimEvents.map (ClaimEvent.accruedTo treasury)).sum =
        (s.claimEvents.map (ClaimEvent.claimedBy treasury)).sum +
          (if treasury = s.treasuryAddress then (s.claimEvents.map ClaimEvent.swept).sum else 0) +
          s.claimableUsdc treasury ∧ (s.claimEvents.map ClaimEvent.swept).sum = 15 := by
  have outcome : (scenario (config [admin1, admin2] 1) [call buyer 1 (.createTrade order),
      call oracle 2 (.releaseFundsStage1 0), call treasury 3 .claim,
      call buyer 4 (.createTrade { order with buyerNonce := 1 }), call oracle 5 (.releaseFundsStage1 1),
      call supplier 6 .claimTreasury]).map (fun s => (s.claimEvents.map ClaimEvent.swept).sum) =
      some 15 := by
    decide +kernel
  obtain ⟨s, reached, swept⟩ := Option.map_eq_some_iff.mp outcome
  obtain ⟨history, run⟩ := scenario_run reached
  exact ⟨s, reached, (claim_ledger run treasury).1, swept⟩

end Agroasys.Escrow
