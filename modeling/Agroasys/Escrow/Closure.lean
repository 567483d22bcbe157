import Agroasys.Escrow.Lifecycle
import Agroasys.Escrow.Recovery
import Agroasys.Escrow.Solvency

namespace Agroasys.Escrow

open Function Agroasys.Foundation

variable {σ Op : Type} {chain : Chain σ Op}

/-- A call by an admin, by the oracle of the moment or by a party of the trade. -/
def Participant (s : World σ) (tradeId : Nat) (entry : Transition (World σ) (Action Op)) : Prop :=
  ∃ msg call, entry.label = .escrow msg call ∧
    (s.isAdmin msg.sender = true ∨ msg.sender = entry.before.oracleAddress ∨
      msg.sender = (s.trades tradeId).buyerAddress ∨ msg.sender = (s.trades tradeId).supplierAddress)

/-- The trade is closed, and what was still reserved for it has become a claim of
one of its parties, with claims open. -/
structure Released (s : World σ) (tradeId : Nat) (final : World σ) : Prop where
  closed : (final.trades tradeId).status = .closed
  claims : final.claimsPaused = false
  credited : ∃ recipient, (recipient = (s.trades tradeId).buyerAddress ∨
      recipient = (s.trades tradeId).supplierAddress) ∧
    final.claimableUsdc = update s.claimableUsdc recipient
      (s.claimableUsdc recipient + (s.trades tradeId).reserved)

def Closable (chain : Chain σ Op) (s : World σ) (tradeId : Nat) : Prop :=
  ∃ final, (escrowSystem chain).Leads (Participant s tradeId) s final ∧ Released s tradeId final

/-- A closing move pays the whole reserve to one party. -/
theorem Move.closing_payouts {move : Move} (closing : move.target = .closed)
    (source : trade.status = move.source) (treasury : Address) : ∃ recipient claimType,
      (recipient = trade.buyerAddress ∨ recipient = trade.supplierAddress) ∧
        move.payouts treasury trade = [⟨recipient, trade.reserved, claimType⟩] := by
  rw [Trade.reserved, source]
  cases move with
  | releaseFundsStage1 | confirmArrival | openDispute => cases closing
  | finalizeAfterDisputeWindow => exact ⟨_, _, .inr rfl, rfl⟩
  | cancelLockedTradeAfterTimeout => exact ⟨_, _, .inl rfl, rfl⟩
  | refundInTransitAfterTimeout => exact ⟨_, _, .inl rfl, rfl⟩
  | executeDispute decision =>
    cases decision with
    | refund => exact ⟨_, _, .inl rfl, rfl⟩
    | resolve => exact ⟨_, _, .inr rfl, rfl⟩

theorem Advanced.released {s next : World σ} {move : Move} (advanced : Advanced s now tradeId move next)
    (closing : move.target = .closed) (claims : s.claimsPaused = false) (time : Nat) :
    Released s tradeId { next with now := time } := by
  obtain ⟨recipient, claimType, party, payouts⟩ :=
    move.closing_payouts closing advanced.source s.treasuryAddress
  have trades : next.trades = update s.trades tradeId (move.advance now (s.trades tradeId)) :=
    (congrArg Custody.trades advanced.custody).trans (Custody.perform_trades ..)
  have claimable : next.claimableUsdc = _ := congrArg Custody.claimable advanced.custody
  refine ⟨?_, ?_, recipient, party, ?_⟩
  · rw [trades, update_self]
    exact closing
  · exact (congrArg Governance.claimsPaused advanced.unruled.governance).trans claims
  · have whole : s.custody.trades tradeId = s.trades tradeId := rfl
    simp only [Custody.perform, whole, payouts, Custody.creditAll_cons, Custody.creditAll_nil] at claimable
    exact claimable

section Timeouts

variable {s : World σ}

theorem Accruable.room_eq (accruable : Accruable s) (reserved : (s.trades tradeId).reserved = amount) :
    Room s amount := by
  rw [← reserved]
  exact accruable tradeId

private theorem cancelLockedTradeAfterTimeout_ok (accruable : Accruable s) (unpaused : s.paused = false)
    (known : tradeId < s.tradeCounter) (source : (s.trades tradeId).status = .locked)
    (late : (s.trades tradeId).createdAt + lockTimeout < time) : ∃ next,
      cancelLockedTradeAfterTimeout ⟨(s.trades tradeId).buyerAddress, time⟩ tradeId s = .ok next := by
  have room : Room s (s.trades tradeId).totalAmountLocked :=
    accruable.room_eq (by rw [Trade.reserved, source])
  simp only [cancelLockedTradeAfterTimeout, whenNotPaused, bind_eq_ok, require_eq_ok, exists_const,
    accrueClaimable_eq_ok, pure_eq_ok]
  exact ⟨_, unpaused, known, trivial, source, late, _, ⟨.inr (room.no_overflow _), rfl⟩, rfl⟩

private theorem refundInTransitAfterTimeout_ok (accruable : Accruable s) (unpaused : s.paused = false)
    (known : tradeId < s.tradeCounter) (source : (s.trades tradeId).status = .inTransit)
    (started : 0 < s.inTransitSince tradeId)
    (late : s.inTransitSince tradeId + inTransitTimeout < time) : ∃ next,
      refundInTransitAfterTimeout ⟨(s.trades tradeId).buyerAddress, time⟩ tradeId s = .ok next := by
  have room : Room s (s.trades tradeId).supplierSecondTranche :=
    accruable.room_eq (by rw [Trade.reserved, source])
  simp only [refundInTransitAfterTimeout, whenNotPaused, bind_eq_ok, require_eq_ok, exists_const,
    accrueClaimable_eq_ok, pure_eq_ok]
  exact ⟨_, unpaused, known, trivial, source, started, late, _, ⟨.inr (room.no_overflow _), rfl⟩, rfl⟩

private theorem finalizeAfterDisputeWindow_ok (msg : Message) (accruable : Accruable s)
    (unpaused : s.paused = false) (known : tradeId < s.tradeCounter)
    (source : (s.trades tradeId).status = .arrivalConfirmed)
    (arrived : 0 < (s.trades tradeId).arrivalTimestamp)
    (late : (s.trades tradeId).disputeElapsed msg.timestamp) :
    ∃ next, finalizeAfterDisputeWindow msg tradeId s = .ok next := by
  have room : Room s (s.trades tradeId).supplierSecondTranche :=
    accruable.room_eq (by rw [Trade.reserved, source])
  simp only [finalizeAfterDisputeWindow, whenNotPaused, bind_eq_ok, require_eq_ok, exists_const,
    accrueClaimable_eq_ok, pure_eq_ok]
  exact ⟨_, unpaused, known, source, arrived, late, _, ⟨.inr (room.no_overflow _), rfl⟩, rfl⟩

/-- A call of the buyer that closes the trade. -/
theorem closable_by_buyer {call : Call} {move : Move} (claims : s.claimsPaused = false)
    (clock : s.now ≤ msg.timestamp) (executed : execute chain msg call s = .ok next)
    (advanced : Advanced s msg.timestamp tradeId move next) (closing : move.target = .closed)
    (buyer : msg.sender = (s.trades tradeId).buyerAddress) : Closable chain s tradeId := by
  have participant : Participant s tradeId
      (⟨s, .escrow msg call, { next with now := msg.timestamp }⟩ :
        Transition (World σ) (Action Op)) := ⟨_, _, rfl, .inr (.inr (.inl buyer))⟩
  exact ⟨_, .single (step_escrow clock executed) participant, advanced.released closing claims _⟩

end Timeouts

section Disputes

private theorem executeDispute_ok (msg : Message) {s : World σ} (accruable : Accruable s)
    (pending : (s.dispute.proposals proposalId).executed = false)
    (standing : s.dispute.cancelled proposalId = false)
    (unexpired : msg.timestamp ≤ s.dispute.expiresAt proposalId)
    (quorum : s.requiredApprovals ≤ (s.dispute.proposals proposalId).approvalCount)
    (frozen : (s.trades (s.dispute.proposals proposalId).matter.tradeId).status = .frozen) :
    ∃ next, executeDispute msg proposalId s = .ok next := by
  have room : Room s (s.trades (s.dispute.proposals proposalId).matter.tradeId).supplierSecondTranche :=
    accruable.room_eq (by rw [Trade.reserved, frozen])
  simp only [executeDispute, bind_eq_ok, require_eq_ok, exists_const, accrueClaimable_eq_ok,
    pure_eq_ok]
  exact ⟨_, pending, standing, unexpired, quorum, frozen, _, ⟨.inr (room.no_overflow _), rfl⟩, rfl⟩

/-- An approval of a live proposal is recorded, and settles the trade if it
completes the quorum. -/
theorem approveDisputeSolution_ok (msg : Message) {s : World σ} (accruable : Accruable s)
    (admin : s.isAdmin msg.sender = true) (unpaused : s.paused = false)
    (initialized : 0 < (s.dispute.proposals proposalId).createdAt)
    (live : s.dispute.Live proposalId msg.timestamp)
    (frozen : (s.trades (s.dispute.proposals proposalId).matter.tradeId).status = .frozen)
    (fresh : s.dispute.hasApproved proposalId msg.sender = false) :
    ∃ next, approveDisputeSolution msg proposalId s = .ok next ∧
      (next = recordDisputeApproval msg proposalId s ∧
          (s.dispute.proposals proposalId).approvalCount + 1 < s.requiredApprovals ∨
        Settled (recordDisputeApproval msg proposalId s) msg.timestamp proposalId next) := by
  simp only [approveDisputeSolution, onlyAdmin, whenNotPaused, bind_eq_ok, require_eq_ok, exists_const]
  by_cases quorum : s.requiredApprovals ≤ (s.dispute.proposals proposalId).approvalCount + 1
  · have recorded := live.approve msg.sender
    have executes : ∃ next,
        executeDispute msg proposalId (recordDisputeApproval msg proposalId s) = .ok next := by
      apply executeDispute_ok msg
      · exact accruable.kept (recordDisputeApproval_undecided msg proposalId s).custody
      · exact recorded.pending
      · exact recorded.standing
      · exact recorded.unexpired
      · simpa [recordDisputeApproval] using quorum
      · simpa [recordDisputeApproval] using frozen
    obtain ⟨next, settles⟩ := executes
    refine ⟨next, ?_, .inr (executeDispute_effect settles)⟩
    exact ⟨admin, unpaused, live.known, initialized, live.pending, live.standing, live.unexpired,
      frozen, fresh, (if_pos quorum).trans settles⟩
  · refine ⟨_, ?_, .inl ⟨rfl, Nat.lt_of_not_le quorum⟩⟩
    exact ⟨admin, unpaused, live.known, initialized, live.pending, live.standing, live.unexpired,
      frozen, fresh, if_neg quorum⟩

/-- The slot of a trade can be taken over once its proposal has expired. -/
theorem vacateDisputeSlot_ok {s : World σ} (orderly : s.docket.Orderly)
    (expired : s.tradeHasActiveDisputeProposal tradeId = true →
      s.dispute.expiresAt (s.tradeActiveDisputeProposalId tradeId) < msg.timestamp) :
    ∃ vacated, vacateDisputeSlot msg tradeId s = .ok vacated ∧
      vacated.dispute.cancelled vacated.dispute.counter = false := by
  cases slot : s.tradeHasActiveDisputeProposal tradeId with
  | false =>
    simp only [vacateDisputeSlot, slot, Bool.false_eq_true, ↓reduceIte, pure_eq_ok]
    exact ⟨s, rfl, orderly.fresh _ le_rfl⟩
  | true =>
    obtain ⟨known, _, _, standing, _⟩ := orderly.held tradeId slot
    simp only [vacateDisputeSlot, slot, ↓reduceIte, bind_eq_ok, require_eq_ok, exists_const, pure_eq_ok]
    refine ⟨_, ⟨⟨expired slot, standing⟩, rfl⟩, ?_⟩
    have other : s.dispute.counter ≠ s.tradeActiveDisputeProposalId tradeId := known.ne'
    have fresh : s.dispute.cancelled s.dispute.counter = false := orderly.fresh _ le_rfl
    simpa [releaseDisputeSlot, other] using fresh

/-- A new proposal is open for seven days. -/
theorem recordDisputeProposal_live (msg : Message) (tradeId : Nat) (decision : DisputeStatus)
    {s : World σ} (standing : s.dispute.cancelled s.dispute.counter = false) :
    (recordDisputeProposal msg tradeId decision s).dispute.Live s.dispute.counter msg.timestamp := by
  constructor
  · exact Nat.lt_succ_self _
  · simp [recordDisputeProposal]
  · exact standing
  · simp [recordDisputeProposal]

@[simp] theorem recordDisputeProposal_proposal (msg : Message) (tradeId : Nat)
    (decision : DisputeStatus) (s : World σ) :
    (recordDisputeProposal msg tradeId decision s).dispute.proposals s.dispute.counter =
      ⟨⟨tradeId, decision⟩, 1, false, msg.timestamp, msg.sender⟩ := by
  simp [recordDisputeProposal]

private theorem proposeDisputeSolution_ok (msg : Message) (decision : DisputeStatus) {s : World σ}
    (accruable : Accruable s) (orderly : s.docket.Orderly) (admin : s.isAdmin msg.sender = true)
    (unpaused : s.paused = false) (known : tradeId < s.tradeCounter)
    (frozen : (s.trades tradeId).status = .frozen)
    (expired : s.tradeHasActiveDisputeProposal tradeId = true →
      s.dispute.expiresAt (s.tradeActiveDisputeProposalId tradeId) < msg.timestamp) :
    ∃ next vacated, proposeDisputeSolution msg tradeId decision s = .ok next ∧ Undecided s vacated ∧
      vacated.dispute.cancelled vacated.dispute.counter = false ∧
      (next = recordDisputeProposal msg tradeId decision vacated ∧ s.requiredApprovals ≠ 1 ∨
        Settled (recordDisputeProposal msg tradeId decision vacated) msg.timestamp
          vacated.dispute.counter next) := by
  obtain ⟨vacated, vacates, standing⟩ := vacateDisputeSlot_ok orderly expired
  have undecided := (vacateDisputeSlot_effect vacates).undecided
  have required : vacated.requiredApprovals = s.requiredApprovals :=
    congrArg Parameters.requiredApprovals undecided.unruled.parameters
  have live := recordDisputeProposal_live msg tradeId decision standing
  simp only [proposeDisputeSolution, onlyAdmin, whenNotPaused, bind_eq_ok, require_eq_ok, exists_const]
  by_cases single : s.requiredApprovals = 1
  · have executes : ∃ next, executeDispute msg vacated.dispute.counter
        (recordDisputeProposal msg tradeId decision vacated) = .ok next := by
      apply executeDispute_ok msg
      · exact (accruable.kept undecided.custody).kept
          (recordDisputeProposal_undecided msg tradeId decision vacated).custody
      · exact live.pending
      · exact live.standing
      · exact live.unexpired
      · rw [recordDisputeProposal_proposal]
        exact (required.trans single).le
      · rw [recordDisputeProposal_proposal]
        exact (congrArg (fun trades => (trades tradeId).status) undecided.trades).trans frozen
    obtain ⟨next, settles⟩ := executes
    refine ⟨next, vacated, ?_, undecided, standing, .inr (executeDispute_effect settles)⟩
    exact ⟨admin, unpaused, known, frozen, vacated, vacates,
      (if_pos (required.trans single)).trans settles⟩
  · refine ⟨_, vacated, ?_, undecided, standing, .inl ⟨rfl, single⟩⟩
    exact ⟨admin, unpaused, known, frozen, vacated, vacates,
      if_neg fun same => single (required.symm.trans same)⟩

/-- A refund of the trade has been proposed and lacks some approvals. -/
structure Refunding (chain : Chain σ Op) (s : World σ) (tradeId missing : Nat) (w : World σ) :
    Prop where
  reachable : (escrowSystem chain).Reachable w
  undecided : Undecided s w
  proposal : ∃ proposalId, w.dispute.Live proposalId w.now ∧
    0 < (w.dispute.proposals proposalId).createdAt ∧
    (w.dispute.proposals proposalId).matter = ⟨tradeId, .refund⟩ ∧
    (w.dispute.proposals proposalId).approvalCount + missing + 1 = w.requiredApprovals

/-- Some admin has not approved yet, and the approval is recorded or settles the
trade. -/
theorem Refunding.progress {s w : World σ} (refunding : Refunding chain s tradeId missing w)
    (accruable : Accruable s) (operational : Operational s) (known : tradeId < s.tradeCounter)
    (frozen : (s.trades tradeId).status = .frozen) :
    ∃ label next, (escrowSystem chain).step w label next ∧
      Participant s tradeId (⟨w, label, next⟩ : Transition (World σ) (Action Op)) ∧
      (Released s tradeId next ∨
        ∃ nearer, nearer < missing ∧ Refunding chain s tradeId nearer next) := by
  obtain ⟨reachable, undecided, proposalId, live, initialized, matter, count⟩ := refunding
  obtain ⟨history, run⟩ := reachable
  have established := run_established run
  have governance := undecided.unruled.governance
  have unpaused : w.paused = false :=
    (congrArg Governance.paused governance).trans operational.unpaused
  have tallied : w.dispute.Tallied := (disputes chain).tallied ⟨history, run⟩
  obtain ⟨admin, member, fresh⟩ := tallied.undecided
    (by omega : (w.dispute.proposals proposalId).approvalCount < w.requiredApprovals)
    (established.staffed.trans_eq (List.toFinset_card_of_nodup established.distinct).symm)
  have eligible := (established.admins admin).mpr (List.mem_toFinset.mp member)
  have status : (w.trades (w.dispute.proposals proposalId).matter.tradeId).status = .frozen := by
    rw [matter, undecided.trades]
    exact frozen
  obtain ⟨next, success, outcome⟩ := approveDisputeSolution_ok ⟨admin, w.now⟩
    (accruable.kept undecided.custody) eligible unpaused initialized live status fresh
  have executed : execute chain ⟨admin, w.now⟩ (.approveDisputeSolution proposalId) w = .ok next :=
    success
  have step := step_escrow le_rfl executed
  have participant : s.isAdmin admin = true :=
    (congrFun (congrArg Governance.isAdmin governance.symm) admin).trans eligible
  have recorded := undecided.trans (recordDisputeApproval_undecided ⟨admin, w.now⟩ proposalId w)
  refine ⟨_, _, step, ⟨_, _, rfl, .inl participant⟩, ?_⟩
  rcases outcome with ⟨rfl, short⟩ | settled
  · refine .inr ⟨missing - 1, by omega, System.Reachable.step ⟨history, run⟩ step, ?_, proposalId, ?_⟩
    · exact ⟨recorded.custody, recorded.usdc, recorded.nonces, recorded.unruled.parameters,
        recorded.unruled.governance⟩
    · refine ⟨live.approve admin, ?_, ?_, ?_⟩
      · simpa [recordDisputeApproval] using initialized
      · simpa [recordDisputeApproval] using matter
      · simp [recordDisputeApproval]
        omega
  · have advanced := settled.advanced recorded operational.unpaused
      (by simpa [recordDisputeApproval] using matter) known
    exact .inl (advanced.released rfl operational.claims _)

/-- A dispute can be settled once the proposal that holds its slot has expired. -/
theorem frozen_closable {s : World σ} (reachable : (escrowSystem chain).Reachable s)
    (accruable : Accruable s) (operational : Operational s) (known : tradeId < s.tradeCounter)
    (frozen : (s.trades tradeId).status = .frozen) : Closable chain s tradeId := by
  obtain ⟨history, run⟩ := reachable
  have established := run_established run
  obtain ⟨admin, eligible⟩ := exists_admin established
  have expired : s.dispute.expiresAt (s.tradeActiveDisputeProposalId tradeId) <
      max s.now (s.dispute.expiresAt (s.tradeActiveDisputeProposalId tradeId) + 1) :=
    (Nat.lt_succ_self _).trans_le (le_max_right ..)
  have clock : s.now ≤ max s.now (s.dispute.expiresAt (s.tradeActiveDisputeProposalId tradeId) + 1) :=
    le_max_left ..
  generalize max s.now (s.dispute.expiresAt (s.tradeActiveDisputeProposalId tradeId) + 1) = time
    at expired clock
  obtain ⟨next, vacated, success, undecided, standing, outcome⟩ :=
    proposeDisputeSolution_ok ⟨admin, time⟩ .refund accruable (run_orderly run) eligible
      operational.unpaused known frozen fun _ => expired
  have executed : execute chain ⟨admin, time⟩ (.proposeDisputeSolution tradeId .refund) s = .ok next :=
    success
  have step := step_escrow clock executed
  have proposed : (escrowSystem chain).Leads (Participant s tradeId) s { next with now := time } :=
    .single step ⟨_, _, rfl, .inl eligible⟩
  have recorded := undecided.trans
    (recordDisputeProposal_undecided ⟨admin, time⟩ tradeId .refund vacated)
  rcases outcome with ⟨rfl, several⟩ | settled
  · have required : vacated.requiredApprovals = s.requiredApprovals :=
      congrArg Parameters.requiredApprovals undecided.unruled.parameters
    have positive := established.required
    have refunding : Refunding chain s tradeId (s.requiredApprovals - 2)
        { recordDisputeProposal ⟨admin, time⟩ tradeId .refund vacated with now := time } := by
      refine ⟨System.Reachable.step ⟨history, run⟩ step, ?_, vacated.dispute.counter, ?_⟩
      · exact ⟨recorded.custody, recorded.usdc, recorded.nonces, recorded.unruled.parameters,
          recorded.unruled.governance⟩
      · refine ⟨recordDisputeProposal_live _ _ _ standing, ?_⟩
        simp only [recordDisputeProposal_proposal]
        refine ⟨established.clock.trans_le clock, trivial, ?_⟩
        have same : (recordDisputeProposal ⟨admin, time⟩ tradeId .refund vacated).requiredApprovals =
            s.requiredApprovals := required
        omega
    obtain ⟨final, leads, arrived⟩ := System.Leads.countdown
      (fun _ _ refunding => refunding.progress accruable operational known frozen) refunding
    exact ⟨final, proposed.trans leads, arrived⟩
  · have advanced := settled.advanced recorded operational.unpaused
      (congrArg _ (recordDisputeProposal_proposal ..)) known
    exact ⟨_, proposed, advanced.released rfl operational.claims _⟩

end Disputes

/-- In an operating protocol every open trade can be closed, once its time is up. -/
theorem operational_closable {s : World σ} (reachable : (escrowSystem chain).Reachable s)
    (accruable : Accruable s) (operational : Operational s) (known : tradeId < s.tradeCounter)
    (ongoing : (s.trades tradeId).status ≠ .closed) : Closable chain s tradeId := by
  obtain ⟨history, run⟩ := reachable
  obtain ⟨unpaused, claims⟩ := operational
  have timed := run_timed run tradeId
  cases source : (s.trades tradeId).status with
  | locked =>
    have late : (s.trades tradeId).createdAt + lockTimeout <
        s.now + ((s.trades tradeId).createdAt + lockTimeout + 1) := by omega
    obtain ⟨next, success⟩ := cancelLockedTradeAfterTimeout_ok accruable unpaused known source late
    obtain ⟨advanced, _⟩ := cancelLockedTradeAfterTimeout_effect success
    have executed : execute chain _ (.cancelLockedTradeAfterTimeout tradeId) s = .ok next := success
    exact closable_by_buyer claims (Nat.le_add_right ..) executed advanced rfl rfl
  | inTransit =>
    have started := timed.transit.mpr source
    have late : s.inTransitSince tradeId + inTransitTimeout <
        s.now + (s.inTransitSince tradeId + inTransitTimeout + 1) := by omega
    obtain ⟨next, success⟩ :=
      refundInTransitAfterTimeout_ok accruable unpaused known source started late
    obtain ⟨advanced, _⟩ := refundInTransitAfterTimeout_effect success
    have executed : execute chain _ (.refundInTransitAfterTimeout tradeId) s = .ok next := success
    exact closable_by_buyer claims (Nat.le_add_right ..) executed advanced rfl rfl
  | arrivalConfirmed =>
    have arrived := timed.arrived (.inl source)
    have late : (s.trades tradeId).disputeElapsed
        (s.now + ((s.trades tradeId).arrivalTimestamp + disputeWindow + 1)) := by
      unfold Trade.disputeElapsed
      omega
    obtain ⟨next, success⟩ := finalizeAfterDisputeWindow_ok ⟨(s.trades tradeId).buyerAddress, _⟩
      accruable unpaused known source arrived late
    obtain ⟨advanced, _⟩ := finalizeAfterDisputeWindow_effect success
    have executed : execute chain _ (.finalizeAfterDisputeWindow tradeId) s = .ok next := success
    exact closable_by_buyer claims (Nat.le_add_right ..) executed advanced rfl rfl
  | frozen => exact frozen_closable ⟨history, run⟩ accruable ⟨unpaused, claims⟩ known source
  | closed => exact absurd source ongoing

/-- What can be closed after a recovery can be closed. -/
theorem Recovers.closable {s next : World σ} (recovers : Recovers chain s next)
    (closable : Closable chain next tradeId) : Closable chain s tradeId := by
  obtain ⟨leads, regoverned⟩ := recovers
  obtain ⟨final, continues, closed, claims, recipient, party, credited⟩ := closable
  have trades : next.trades = s.trades := congrArg Settlement.trades regoverned.settlement
  have claimable : next.claimableUsdc = s.claimableUsdc :=
    congrArg Settlement.claimableUsdc regoverned.settlement
  rw [trades] at party
  rw [trades, claimable] at credited
  refine ⟨final, ?_, closed, claims, recipient, party, credited⟩
  apply (leads.mono ?_).trans (continues.mono ?_)
  · rintro entry ⟨msg, call, label, admin⟩
    exact ⟨msg, call, label, .inl admin⟩
  · rintro entry ⟨msg, call, label, actor⟩
    rw [regoverned.isAdmin, trades] at actor
    exact ⟨msg, call, label, actor⟩

private theorem stranded {config : Config} {s : World σ} (deployed : config.Deployed origin)
    (path : Path (escrowSystem chain) origin history s) (ongoing : (s.trades tradeId).status ≠ .closed)
    (paused : s.paused = true) (one : config.admins.length < 2) : ¬ Closable chain s tradeId := by
  rintro ⟨final, ⟨later, continued, _⟩, released⟩
  have alone := (path_admins deployed path).2 one
  have kept := alone.frozen ⟨history, origin, ⟨config, deployed⟩, path⟩ paused continued
  apply ongoing
  rw [← kept]
  exact released.closed

/-- The people involved can close an open trade and collect its amounts exactly
when the protocol is not paused or was deployed with two admins or more. -/
theorem trade_closable_iff (standard : StandardERC20 chain sound) {config : Config}
    (deployed : config.Deployed origin) (funded : sound origin.usdc)
    (path : Path (escrowSystem chain) origin history s) (known : tradeId < s.tradeCounter)
    (ongoing : (s.trades tradeId).status ≠ .closed) :
    Closable chain s tradeId ↔ s.paused = false ∨ 2 ≤ config.admins.length := by
  have reachable : (escrowSystem chain).Reachable s := ⟨history, origin, ⟨config, deployed⟩, path⟩
  constructor
  · intro closable
    by_contra neither
    rw [not_or, Bool.not_eq_false, not_le] at neither
    exact stranded deployed path ongoing neither.1 neither.2 closable
  · intro condition
    have staffed := (path_admins deployed path).1
    obtain ⟨next, recovers, operational⟩ :=
      operation_recovers reachable (condition.imp_right fun two => two.trans staffed)
    obtain ⟨later, continued, _⟩ := recovers.leads
    obtain ⟨established, backed⟩ :=
      path_backed standard deployed funded (path.append continued)
    have trades : next.trades = s.trades := congrArg Settlement.trades recovers.regoverned.settlement
    have counter : next.tradeCounter = s.tradeCounter :=
      congrArg Settlement.tradeCounter recovers.regoverned.settlement
    apply recovers.closable
    apply operational_closable (recovers.leads.reachable reachable)
      (backed.accruable standard established.unopened) operational
    · rwa [counter]
    · rwa [trades]

open Mock in
/-- Two admins recover a trade from an emergency stop. -/
theorem stoppedTrade_closable : ∃ s, scenario (config [admin1, admin2] 1)
    [call buyer 1 (.createTrade order), call admin1 2 .disableOracleEmergency] = some s ∧
      s.paused = true ∧ s.oracleActive = false ∧ Closable mockChain s 0 := by
  have outcome : (scenario (config [admin1, admin2] 1) [call buyer 1 (.createTrade order),
      call admin1 2 .disableOracleEmergency]).map (fun s =>
        (s.tradeCounter, (s.trades 0).status, s.paused, s.oracleActive)) =
      some (1, .locked, true, false) := by
    decide +kernel
  obtain ⟨s, reached, facts⟩ := Option.map_eq_some_iff.mp outcome
  obtain ⟨origin, history, deployed, funded, path⟩ := scenario_funded reached
  simp only [Prod.mk.injEq] at facts
  obtain ⟨counter, locked, paused, disabled⟩ := facts
  have known : 0 < s.tradeCounter := by omega
  have ongoing : (s.trades 0).status ≠ .closed := by simp [locked]
  have closable := trade_closable_iff (MockUSDC.standard rfl)
    deployed funded path known ongoing
  exact ⟨s, reached, paused, disabled, closable.mpr (.inr le_rfl)⟩

open Mock in
/-- The only admin pauses the protocol while a trade is locked. -/
theorem pausedTrade_stranded : ¬ ∀ (config : Config) origin history s tradeId,
    config.Deployed origin → Path (escrowSystem mockChain) origin history s →
    tradeId < s.tradeCounter → (s.trades tradeId).status ≠ .closed →
    Closable mockChain s tradeId := by
  have outcome : (scenario (config [admin1] 1) [call buyer 1 (.createTrade order),
      call admin1 2 .pause]).map (fun s => (s.tradeCounter, (s.trades 0).status, s.paused)) =
      some (1, .locked, true) := by
    decide +kernel
  obtain ⟨s, reached, facts⟩ := Option.map_eq_some_iff.mp outcome
  obtain ⟨origin, history, deployed, _, path⟩ := scenario_funded reached
  simp only [Prod.mk.injEq] at facts
  obtain ⟨counter, locked, paused⟩ := facts
  have ongoing : (s.trades 0).status ≠ .closed := by simp [locked]
  intro always
  have closable := always _ origin history s 0 deployed path (by omega) ongoing
  exact stranded deployed path ongoing paused Nat.one_lt_two closable

end Agroasys.Escrow
