import Agroasys.Foundation.Bulletin
import Agroasys.Escrow.Timelock
import Agroasys.Escrow.DisputeSlot
import Agroasys.Escrow.Lifecycle

/-! The events of the contract as a chronicle: what each of them tells of the trades and
proposals, and that a call tells exactly what it did. -/

namespace Agroasys.Escrow

open Function Agroasys.Foundation

variable {σ Op : Type} {chain : Chain σ Op}

/-- What can be told of the contract. A dispute is paid once its payout was told. -/
structure Account where
  trades : Nat → Option Trade
  disputes : Standings DisputeMatter
  paid : Nat → Bool
  oracleUpdates : Standings OracleUpdate
  adminAdds : Standings AdminAdd

def Account.empty : Account := ⟨fun _ => none, fun _ => none, fun _ => false, fun _ => none, fun _ => none⟩

def World.account (s : World σ) : Account where
  trades tradeId := if tradeId < s.tradeCounter then some (s.trades tradeId) else none
  disputes := s.dispute.standings
  paid := s.dispute.enacted
  oracleUpdates := s.oracleUpdate.standings
  adminAdds := s.adminAdd.standings

/-- The event that announces a new trade. -/
def Trade.locking (trade : Trade) : Event :=
  .tradeLocked trade.tradeId trade.buyerAddress trade.supplierAddress trade.totalAmountLocked
    trade.logisticsAmount trade.platformFeesAmount trade.supplierFirstTranche trade.supplierSecondTranche
    trade.ricardianHash

namespace Event

/-- The move that an event announces, other than the settlement of a dispute. -/
def move? : Event → Option (Nat × Move)
  | .fundsReleasedStage1 tradeId _ _ _ _ => some (tradeId, .releaseFundsStage1)
  | .arrivalConfirmed tradeId _ => some (tradeId, .confirmArrival)
  | .finalTrancheReleased tradeId _ _ => some (tradeId, .finalizeAfterDisputeWindow)
  | .disputeOpenedByBuyer tradeId => some (tradeId, .openDispute)
  | .tradeCancelledAfterLockTimeout tradeId _ _ => some (tradeId, .cancelLockedTradeAfterTimeout)
  | .inTransitTimeoutRefunded tradeId _ _ => some (tradeId, .refundInTransitAfterTimeout)
  | _ => none

def dispute? : Event → Option (Notice DisputeMatter)
  | .disputeApproved proposalId _ approvalCount _ => some (.approved proposalId approvalCount)
  | .disputeProposalExpiredCancelled proposalId _ _ => some (.cancelled proposalId)
  | _ => none

def oracleUpdate? : Event → Option (Notice OracleUpdate)
  | .oracleUpdateProposed proposalId _ newOracle eta emergencyFastTrack =>
    some (.proposed proposalId ⟨newOracle, eta, emergencyFastTrack⟩)
  | .oracleUpdateApproved proposalId _ approvalCount _ => some (.approved proposalId approvalCount)
  | .oracleUpdated _ _ => some .executed
  | .oracleUpdateProposalExpiredCancelled proposalId _ => some (.cancelled proposalId)
  | _ => none

def adminAdd? : Event → Option (Notice AdminAdd)
  | .adminAddProposed proposalId _ newAdmin eta => some (.proposed proposalId ⟨newAdmin, eta⟩)
  | .adminAddApproved proposalId _ approvalCount _ => some (.approved proposalId approvalCount)
  | .adminAdded _ => some .executed
  | .adminAddProposalExpiredCancelled proposalId _ => some (.cancelled proposalId)
  | _ => none

/-- Events that tell nothing of trades or proposals. -/
def silent : Event → Bool
  | .platformFeesPaidStage1 .. | .claimableAccrued .. | .unpauseProposed _ | .unpauseApproved ..
  | .unpauseProposalCancelled _ | .treasuryPayoutAddressUpdateProposed ..
  | .treasuryPayoutAddressUpdateApproved .. | .treasuryPayoutAddressUpdated ..
  | .treasuryPayoutAddressUpdateProposalExpiredCancelled .. | .treasuryClaimed ..
  | .oracleDisabledEmergency .. | .claimed .. | .claimsPaused _ | .claimsUnpaused _ | .paused _
  | .unpaused _ => true
  | _ => false

end Event

/-- What an event tells. Only `confirmArrival` shows when a move was made. -/
inductive Tells (before : Account) : Event → Account → Prop where
  | locked (trade : Trade) (absent : before.trades trade.tradeId = none) (status : trade.status = .locked) :
      Tells before trade.locking
        { before with trades := update before.trades trade.tradeId (some trade) }
  | moved (announced : event.move? = some (tradeId, move)) (found : before.trades tradeId = some trade)
      (source : trade.status = move.source) (now : Nat) :
      Tells before event
        { before with trades := update before.trades tradeId (some (move.advance now trade)) }
  | disputeProposed (found : before.trades tradeId = some trade) (frozen : trade.status = .frozen)
      (posts : Notice.Posts before.disputes (.proposed proposalId ⟨tradeId, decision⟩) after) :
      Tells before (.disputeSolutionProposed proposalId tradeId decision proposer)
        { before with disputes := after }
  | dispute (announced : event.dispute? = some notice) (posts : notice.Posts before.disputes after) :
      Tells before event { before with disputes := after }
  | disputePaid (found : before.disputes proposalId = some standing)
      (matter : standing.matter = ⟨tradeId, decision⟩) (known : before.trades tradeId = some trade) :
      Tells before (.disputePayout tradeId proposalId recipient amount decision)
        { before with paid := update before.paid proposalId true }
  | disputeFinalized (found : before.disputes proposalId = some standing)
      (matter : standing.matter = ⟨tradeId, decision⟩) (paid : before.paid proposalId = true)
      (known : before.trades tradeId = some trade) (frozen : trade.status = .frozen) (now : Nat) :
      Tells before (.disputeFinalized proposalId tradeId decision)
        { before with
          trades := update before.trades tradeId (some ((Move.executeDispute decision).advance now trade))
          disputes := update before.disputes proposalId (some { standing with executed := true }) }
  | oracleUpdate (announced : event.oracleUpdate? = some notice)
      (posts : notice.Posts before.oracleUpdates after) :
      Tells before event { before with oracleUpdates := after }
  | adminAdd (announced : event.adminAdd? = some notice) (posts : notice.Posts before.adminAdds after) :
      Tells before event { before with adminAdds := after }
  | silent (silent : event.silent = true) : Tells before event before

/-- A trade was settled by a dispute proposal. -/
def Account.Settled (account : Account) (tradeId : Nat) : Prop :=
  account.disputes.Enacts fun _ matter => matter.tradeId = tradeId

/-- Settled trades are closed. -/
def Account.Coherent (account : Account) : Prop :=
  ∀ tradeId, account.Settled tradeId → ∃ trade, account.trades tradeId = some trade ∧ trade.status = .closed

theorem Event.dispute?_pending {event : Event} (announced : event.dispute? = some notice) : notice ≠ .executed := by
  rintro rfl
  cases event <;> simp [dispute?] at announced

/-- Closed trades stay closed, and a settlement closes its trade. -/
theorem Tells.coherent (tells : Tells before event after) (coherent : before.Coherent) : after.Coherent := by
  intro tradeId settled
  cases tells with
  | locked trade absent =>
    obtain ⟨old, found, closed⟩ := coherent tradeId settled
    have different : tradeId ≠ trade.tradeId := by
      rintro rfl
      simp [absent] at found
    exact ⟨old, by simpa [different] using found, closed⟩
  | @moved other move trade _ announced found source now =>
    obtain ⟨old, known, closed⟩ := coherent tradeId settled
    have different : tradeId ≠ other := by
      rintro rfl
      obtain rfl := Option.some.inj (found.symm.trans known)
      rw [source] at closed
      cases move <;> cases closed
    exact ⟨old, by simpa [different] using known, closed⟩
  | disputeProposed found frozen posts =>
    exact coherent tradeId ((posts.enacts_iff (by simp) _).mp settled)
  | dispute announced posts =>
    exact coherent tradeId ((posts.enacts_iff (Event.dispute?_pending announced) _).mp settled)
  | @disputeFinalized proposalId standing other decision trade found matter paid known frozen now =>
    rcases (Standings.enacts_executed found).mp settled with earlier | same
    · obtain ⟨old, present, closed⟩ := coherent tradeId earlier
      by_cases same : tradeId = other
      · subst same
        exact ⟨_, update_self .., rfl⟩
      · exact ⟨old, by simpa [same] using present, closed⟩
    · rw [matter] at same
      obtain rfl : other = tradeId := same
      exact ⟨_, update_self .., rfl⟩
  | disputePaid | oracleUpdate | adminAdd | silent => exact coherent tradeId settled

def chronicle : System Account Event where
  initial account := account = .empty
  step := Tells

/-- The events that a change adds tell what it did. -/
def Chronicled (s next : World σ) : Prop :=
  ∃ news, next.events = s.events ++ news ∧ chronicle.Trace s.account news next.account

namespace Chronicled

variable {s middle next : World σ}

private theorem refl (s : World σ) : Chronicled s s := ⟨[], by simp, .done _⟩

private theorem trans (first : Chronicled s middle) (second : Chronicled middle next) : Chronicled s next := by
  obtain ⟨earlier, events, before⟩ := first
  obtain ⟨later, moreEvents, after⟩ := second
  refine ⟨earlier ++ later, ?_, before.append after⟩
  rw [moreEvents, events, List.append_assoc]

theorem one (events : next.events = s.events ++ [event]) (tells : Tells s.account event next.account) :
    Chronicled s next :=
  ⟨[event], events, .single tells⟩

end Chronicled

theorem silent_trace (account : Account) (silent : ∀ event ∈ news, Event.silent event = true) :
    chronicle.Trace account news account := by
  induction news with
  | nil => exact .done account
  | cons event rest ih =>
    rw [List.forall_mem_cons] at silent
    exact .step (.silent silent.1) (ih silent.2)

private theorem Chronicled.quiet {s next : World σ} (events : next.events = s.events ++ news)
    (silent : ∀ event ∈ news, Event.silent event = true) (account : next.account = s.account) :
    Chronicled s next :=
  ⟨news, events, account ▸ silent_trace s.account silent⟩

/-- What `_accrueClaimable` emits. -/
def accrual (tradeId : Nat) (payout : Payout) : List Event :=
  if payout.amount = 0 then []
  else [.claimableAccrued tradeId payout.recipient payout.amount payout.claimType]

private theorem credited_events (tradeId : Nat) (payout : Payout) (s : World σ) :
    (credited tradeId payout s).events = s.events ++ accrual tradeId payout := rfl

theorem accrual_silent (tradeId : Nat) (payout : Payout) :
    ∀ event ∈ accrual tradeId payout, event.silent = true := by
  unfold accrual
  split <;> simp [Event.silent]

section Trades

/-- A call announces a move and tells nothing else. -/
def Announces (s next : World σ) (told : Nat × Move) : Prop :=
  ∃ first event last, next.events = s.events ++ (first ++ event :: last) ∧ event.move? = some told ∧
    ∀ other ∈ first ++ last, other.silent = true

theorem releaseFundsStage1_announces {s next : World σ} (success : releaseFundsStage1 msg tradeId s = .ok next) :
    Announces s next (tradeId, .releaseFundsStage1) := by
  simp only [releaseFundsStage1, onlyOracle, onlyOracleActive, whenNotPaused, bind_eq_ok,
    require_eq_ok, exists_const, accrueClaimable_eq_ok, pure_eq_ok] at success
  obtain ⟨_, _, _, _, _, first, ⟨_, rfl⟩, second, ⟨_, rfl⟩, third, ⟨_, rfl⟩, rfl⟩ := success
  let trade := s.trades tradeId
  refine ⟨accrual tradeId ⟨trade.supplierAddress, trade.supplierFirstTranche, .stage1Supplier⟩ ++
    accrual tradeId ⟨s.treasuryAddress, trade.logisticsAmount, .stage1LogisticsFee⟩ ++
    accrual tradeId ⟨s.treasuryAddress, trade.platformFeesAmount, .stage1PlatformFee⟩,
    .fundsReleasedStage1 tradeId trade.supplierAddress trade.supplierFirstTranche s.treasuryAddress
      trade.logisticsAmount,
    [.platformFeesPaidStage1 tradeId s.treasuryAddress trade.platformFeesAmount], ?_, rfl, ?_⟩
  · simp only [World.emit_events, credited_events, List.append_assoc]
    rfl
  · intro other member
    simp only [List.mem_append, List.mem_singleton] at member
    rcases member with ((member | member) | member) | rfl
    · exact accrual_silent _ _ other member
    · exact accrual_silent _ _ other member
    · exact accrual_silent _ _ other member
    · rfl

private theorem confirmArrival_announces {s next : World σ} (success : confirmArrival msg tradeId s = .ok next) :
    Announces s next (tradeId, .confirmArrival) := by
  simp only [confirmArrival, onlyOracle, onlyOracleActive, whenNotPaused, bind_eq_ok,
    require_eq_ok, exists_const, pure_eq_ok] at success
  obtain ⟨_, _, _, _, _, rfl⟩ := success
  exact ⟨[], _, [], rfl, rfl, by simp⟩

private theorem openDispute_announces {s next : World σ} (success : openDispute msg tradeId s = .ok next) :
    Announces s next (tradeId, .openDispute) := by
  simp only [openDispute, whenNotPaused, bind_eq_ok, require_eq_ok, exists_const,
    pure_eq_ok] at success
  obtain ⟨_, _, _, _, _, _, rfl⟩ := success
  exact ⟨[], _, [], rfl, rfl, by simp⟩

/-- The three calls that close a trade without a dispute credit one payout and then
announce the move. -/
theorem announces_payout {s paid next : World σ}
    (emitted : next = (credited tradeId payout paid).emit [event]) (quiet : paid.events = s.events)
    (announced : event.move? = some told) :
    Announces s next told := by
  refine ⟨accrual tradeId payout, event, [], ?_, announced, ?_⟩
  · rw [emitted, World.emit_events, credited_events, quiet, List.append_assoc]
  · simpa using accrual_silent tradeId payout

private theorem finalizeAfterDisputeWindow_announces {s next : World σ}
    (success : finalizeAfterDisputeWindow msg tradeId s = .ok next) :
    Announces s next (tradeId, .finalizeAfterDisputeWindow) := by
  simp only [finalizeAfterDisputeWindow, whenNotPaused, bind_eq_ok, require_eq_ok, exists_const,
    accrueClaimable_eq_ok, pure_eq_ok] at success
  obtain ⟨_, _, _, _, _, paid, ⟨_, rfl⟩, emitted⟩ := success
  exact announces_payout emitted.symm (by rfl) (by rfl)

private theorem cancelLockedTradeAfterTimeout_announces {s next : World σ}
    (success : cancelLockedTradeAfterTimeout msg tradeId s = .ok next) :
    Announces s next (tradeId, .cancelLockedTradeAfterTimeout) := by
  simp only [cancelLockedTradeAfterTimeout, whenNotPaused, bind_eq_ok, require_eq_ok, exists_const,
    accrueClaimable_eq_ok, pure_eq_ok] at success
  obtain ⟨_, _, _, _, _, paid, ⟨_, rfl⟩, emitted⟩ := success
  exact announces_payout emitted.symm (by rfl) (by rfl)

private theorem refundInTransitAfterTimeout_announces {s next : World σ}
    (success : refundInTransitAfterTimeout msg tradeId s = .ok next) :
    Announces s next (tradeId, .refundInTransitAfterTimeout) := by
  simp only [refundInTransitAfterTimeout, whenNotPaused, bind_eq_ok, require_eq_ok, exists_const,
    accrueClaimable_eq_ok, pure_eq_ok] at success
  obtain ⟨_, _, _, _, _, _, paid, ⟨_, rfl⟩, emitted⟩ := success
  exact announces_payout emitted.symm (by rfl) (by rfl)

private theorem account_moved {s next : World σ} (advanced : Advanced s now tradeId move next)
    (undisputed : Undisputed s next) :
    next.account = { s.account with
      trades := update s.account.trades tradeId (some (move.advance now (s.trades tradeId))) } := by
  have counter : next.tradeCounter = s.tradeCounter :=
    (congrArg Custody.tradeCounter advanced.custody).trans (Custody.perform_tradeCounter ..)
  have governance := advanced.unruled.governance
  simp only [World.account, undisputed.dispute, governance, counter, advanced.trades, Account.mk.injEq,
    and_self, and_true]
  funext other
  by_cases same : other = tradeId
  · subst same
    simp [advanced.known]
  · simp [same]

private theorem moved_chronicled {s next : World σ} (advanced : Advanced s now tradeId move next)
    (undisputed : Undisputed s next) (announces : Announces s next (tradeId, move)) : Chronicled s next := by
  obtain ⟨first, event, last, events, announced, silent⟩ := announces
  simp only [List.forall_mem_append] at silent
  refine ⟨_, events, ?_⟩
  rw [account_moved advanced undisputed]
  have found : s.account.trades tradeId = some (s.trades tradeId) := if_pos advanced.known
  have told := Tells.moved announced found advanced.source now
  exact (silent_trace _ silent.1).append (.step told (silent_trace _ silent.2))

private theorem account_locked {s next : World σ} (created : Created chain s msg order next)
    (undisputed : Undisputed s next) (unruled : Unruled s next) :
    next.account = { s.account with
      trades := update s.account.trades s.tradeCounter
        (some (order.trade s.tradeCounter msg.sender msg.timestamp)) } := by
  have counter : next.tradeCounter = s.tradeCounter + 1 := congrArg Custody.tradeCounter created.custody
  have trades : next.trades = update s.trades s.tradeCounter _ := congrArg Custody.trades created.custody
  have governance := unruled.governance
  simp only [World.account, undisputed.dispute, governance, counter, trades, Account.mk.injEq, and_self,
    and_true]
  funext other
  have order : other < s.tradeCounter + 1 ↔ other = s.tradeCounter ∨ other < s.tradeCounter := by omega
  by_cases same : other = s.tradeCounter
  · subst same
    simp
  · simp [same, order]

private theorem createTrade_chronicled {s next : World σ} (success : createTrade chain msg order s = .ok next) :
    Chronicled s next := by
  obtain ⟨created, undisputed, unruled⟩ := createTrade_effect success
  have account := account_locked created undisputed unruled
  simp only [createTrade, whenNotPaused, bind_eq_ok, require_eq_ok, exists_const, checkedAdd_eq_ok,
    verifySignature_eq_ok, safeTransferFrom_eq_ok, pure_eq_ok] at success
  obtain ⟨_, _, _, _, ⟨_, rfl⟩, _, ⟨_, rfl⟩, _, ⟨_, rfl⟩, _, _, _, _, _, rfl, _, ⟨usdc, _, rfl⟩, rfl⟩ := success
  refine .one rfl ?_
  rw [account]
  exact .locked (order.trade s.tradeCounter msg.sender msg.timestamp) (if_neg (Nat.lt_irrefl _)) rfl

end Trades

section Disputes

private theorem vacateDisputeSlot_chronicled {s next : World σ} (orderly : s.docket.Orderly)
    (success : vacateDisputeSlot msg tradeId s = .ok next) : Chronicled s next := by
  cases slot : s.tradeHasActiveDisputeProposal tradeId with
  | false =>
    simp only [vacateDisputeSlot, slot, Bool.false_eq_true, ↓reduceIte, pure_eq_ok] at success
    subst success
    exact .refl s
  | true =>
    simp only [vacateDisputeSlot, slot, ↓reduceIte, bind_eq_ok, require_eq_ok, exists_const,
      pure_eq_ok] at success
    obtain ⟨_, rfl⟩ := success
    have known : s.tradeActiveDisputeProposalId tradeId < s.dispute.counter := (orderly.held tradeId slot).1
    exact .one rfl (.dispute rfl (ProposalBook.posts_cancel known))

private theorem recordDisputeProposal_chronicled (msg : Message) (decision : DisputeStatus) {s : World σ}
    (known : tradeId < s.tradeCounter) (frozen : (s.trades tradeId).status = .frozen)
    (fresh : s.dispute.cancelled s.dispute.counter = false) :
    Chronicled s (recordDisputeProposal msg tradeId decision s) := by
  have found : s.account.trades tradeId = some (s.trades tradeId) := if_pos known
  have account : (recordDisputeProposal msg tradeId decision s).account = { s.account with
      disputes := (recordDisputeProposal msg tradeId decision s).dispute.standings } := by
    simp only [World.account, Account.mk.injEq, true_and]
    exact ⟨rfl, ProposalBook.enacted_propose .., rfl, rfl⟩
  refine .one rfl ?_
  rw [account]
  exact .disputeProposed found frozen (ProposalBook.posts_propose _ _ _ _ fresh)

private theorem recordDisputeApproval_chronicled (msg : Message) {s : World σ}
    (known : proposalId < s.dispute.counter) :
    Chronicled s (recordDisputeApproval msg proposalId s) := by
  have account : (recordDisputeApproval msg proposalId s).account = { s.account with
      disputes := (recordDisputeApproval msg proposalId s).dispute.standings } := by
    simp only [World.account, Account.mk.injEq, true_and]
    exact ⟨rfl, ProposalBook.enacted_approve .., rfl, rfl⟩
  refine .one rfl ?_
  rw [account]
  exact .dispute rfl (ProposalBook.posts_approve msg.sender known)

private theorem executeDispute_events {s next : World σ} (success : executeDispute msg proposalId s = .ok next) :
    ∃ payout, next.events = s.events ++ (accrual (s.dispute.proposals proposalId).matter.tradeId payout ++
      [.disputePayout (s.dispute.proposals proposalId).matter.tradeId proposalId payout.recipient payout.amount
          (s.dispute.proposals proposalId).matter.disputeStatus,
        .disputeFinalized proposalId (s.dispute.proposals proposalId).matter.tradeId
          (s.dispute.proposals proposalId).matter.disputeStatus]) := by
  simp only [executeDispute, bind_eq_ok, require_eq_ok, exists_const, accrueClaimable_eq_ok,
    pure_eq_ok] at success
  obtain ⟨_, _, _, _, _, paid, ⟨_, rfl⟩, rfl⟩ := success
  cases decision : (s.dispute.proposals proposalId).matter.disputeStatus with
  | refund =>
    refine ⟨⟨(s.trades (s.dispute.proposals proposalId).matter.tradeId).buyerAddress,
      (s.trades (s.dispute.proposals proposalId).matter.tradeId).supplierSecondTranche, .disputeRefundBuyer⟩, ?_⟩
    simp only [World.emit_events, credited_events, List.append_assoc]
    rfl
  | resolve =>
    refine ⟨⟨(s.trades (s.dispute.proposals proposalId).matter.tradeId).supplierAddress,
      (s.trades (s.dispute.proposals proposalId).matter.tradeId).supplierSecondTranche, .disputeResolveSupplier⟩, ?_⟩
    simp only [World.emit_events, credited_events, List.append_assoc]
    rfl

private theorem account_settled {s next : World σ} (settled : Settled s now proposalId next)
    (known : proposalId < s.dispute.counter)
    (opened : (s.dispute.proposals proposalId).matter.tradeId < s.tradeCounter) :
    next.account = { s.account with
      trades := update s.account.trades (s.dispute.proposals proposalId).matter.tradeId
        (some ((Move.executeDispute (s.dispute.proposals proposalId).matter.disputeStatus).advance now
          (s.trades (s.dispute.proposals proposalId).matter.tradeId)))
      disputes := update s.account.disputes proposalId
        (some { s.dispute.standing proposalId with executed := true })
      paid := update s.account.paid proposalId true } := by
  have counter : next.tradeCounter = s.tradeCounter :=
    (congrArg Custody.tradeCounter settled.custody).trans (Custody.perform_tradeCounter ..)
  have trades : next.trades = _ := (congrArg Custody.trades settled.custody).trans (Custody.perform_trades ..)
  have governance := settled.unruled.governance
  simp only [World.account, settled.dispute, governance, counter, trades, Account.mk.injEq, and_true,
    ProposalBook.standings_execute known, ProposalBook.enacted_execute known]
  funext other
  by_cases same : other = (s.dispute.proposals proposalId).matter.tradeId
  · subst same
    simp [opened, World.custody]
  · simp [same, World.custody]

private theorem executeDispute_chronicled {s next : World σ} (known : proposalId < s.dispute.counter)
    (opened : (s.dispute.proposals proposalId).matter.tradeId < s.tradeCounter)
    (success : executeDispute msg proposalId s = .ok next) : Chronicled s next := by
  have settled := executeDispute_effect success
  obtain ⟨payout, events⟩ := executeDispute_events success
  refine ⟨_, events, ?_⟩
  rw [account_settled settled known opened]
  have found : s.account.disputes proposalId = some (s.dispute.standing proposalId) :=
    ProposalBook.standings_known known
  have trade : s.account.trades _ = some (s.trades _) := if_pos opened
  have quiet := silent_trace s.account (accrual_silent (s.dispute.proposals proposalId).matter.tradeId payout)
  have matter : (s.dispute.standing proposalId).matter =
      ⟨(s.dispute.proposals proposalId).matter.tradeId, (s.dispute.proposals proposalId).matter.disputeStatus⟩ := rfl
  refine quiet.append (.step (.disputePaid found matter trade) (.single ?_))
  refine Tells.disputeFinalized ?_ matter ?_ ?_ settled.frozen msg.timestamp
  · exact found
  · exact update_self ..
  · exact trade

private theorem proposeDisputeSolution_chronicled {s next : World σ} (orderly : s.docket.Orderly)
    (success : proposeDisputeSolution msg tradeId decision s = .ok next) : Chronicled s next := by
  simp only [proposeDisputeSolution, onlyAdmin, whenNotPaused, bind_eq_ok, require_eq_ok,
    exists_const] at success
  obtain ⟨_, _, known, frozen, vacated, vacates, rest⟩ := success
  have effect := vacateDisputeSlot_effect vacates
  have counter : vacated.tradeCounter = s.tradeCounter :=
    congrArg Custody.tradeCounter effect.undecided.custody
  have trades := effect.undecided.trades
  have fresh : vacated.dispute.cancelled vacated.dispute.counter = false := by
    rcases effect.slots with ⟨_, undisputed⟩ | ⟨active, _, _, book, _⟩
    · rw [undisputed.dispute]
      exact orderly.fresh _ le_rfl
    · have older : s.tradeActiveDisputeProposalId tradeId < s.dispute.counter :=
        (orderly.held tradeId active).1
      rw [book, ProposalBook.cancel_cancelled, ProposalBook.cancel_counter, update_of_ne older.ne']
      exact orderly.fresh _ le_rfl
  have recorded := recordDisputeProposal_chronicled msg decision (counter ▸ known)
    (by rw [trades]; exact frozen) fresh
  have upTo := (vacateDisputeSlot_chronicled orderly vacates).trans recorded
  split at rest
  · have proposal : (recordDisputeProposal msg tradeId decision vacated).dispute.proposals
        vacated.dispute.counter = ⟨⟨tradeId, decision⟩, 1, false, msg.timestamp, msg.sender⟩ := by
      simp [recordDisputeProposal, World.emit]
    refine upTo.trans (executeDispute_chronicled ?_ ?_ rest)
    · exact Nat.lt_succ_self _
    · rw [proposal]
      exact counter ▸ known
  · rw [← pure_eq_ok.mp rest]
    exact upTo

private theorem approveDisputeSolution_chronicled {s next : World σ} (unopened : s.Unopened)
    (success : approveDisputeSolution msg proposalId s = .ok next) : Chronicled s next := by
  simp only [approveDisputeSolution, onlyAdmin, whenNotPaused, bind_eq_ok, require_eq_ok,
    exists_const] at success
  obtain ⟨_, _, known, _, _, _, _, frozen, _, rest⟩ := success
  have recorded := recordDisputeApproval_chronicled msg known
  split at rest
  · have matter : ((recordDisputeApproval msg proposalId s).dispute.proposals proposalId).matter =
        (s.dispute.proposals proposalId).matter := by
      simp [recordDisputeApproval, World.emit]
    have executed : executeDispute msg proposalId (recordDisputeApproval msg proposalId s) = .ok next := rest
    refine recorded.trans (executeDispute_chronicled known ?_ executed)
    rw [matter]
    exact unopened.known (by rw [frozen]; decide)
  · rw [← pure_eq_ok.mp rest]
    exact recorded

private theorem cancelExpiredDisputeProposal_chronicled {s next : World σ}
    (success : cancelExpiredDisputeProposal msg proposalId s = .ok next) : Chronicled s next := by
  simp only [cancelExpiredDisputeProposal, onlyAdmin, whenNotPaused, bind_eq_ok, require_eq_ok,
    exists_const, pure_eq_ok] at success
  obtain ⟨_, _, known, _, _, _, _, rfl⟩ := success
  have told : Tells s.account (.disputeProposalExpiredCancelled proposalId
      (s.dispute.proposals proposalId).matter.tradeId msg.sender) _ :=
    .dispute rfl (ProposalBook.posts_cancel known)
  unfold releaseHeldSlot
  split
  · exact .one rfl told
  · exact .one rfl told

end Disputes

section Governance

variable {s next : World σ}

/-- A change of what the account leaves out, with silent events. -/
def Unnoticed (s next : World σ) : Prop :=
  next.account = s.account ∧
    ∃ news, next.events = s.events ++ news ∧ ∀ event ∈ news, Event.silent event = true

private theorem Unnoticed.chronicled (unnoticed : Unnoticed s next) : Chronicled s next := by
  obtain ⟨account, news, events, silent⟩ := unnoticed
  exact ⟨news, events, account ▸ silent_trace s.account silent⟩

private theorem Unnoticed.trans {middle : World σ} (first : Unnoticed s middle) (second : Unnoticed middle next) :
    Unnoticed s next := by
  obtain ⟨account, earlier, events, before⟩ := first
  obtain ⟨moreAccount, later, moreEvents, after⟩ := second
  refine ⟨moreAccount.trans account, earlier ++ later, ?_, ?_⟩
  · rw [moreEvents, events, List.append_assoc]
  · rw [List.forall_mem_append]
    exact ⟨before, after⟩

/-- A call that the account does not follow. -/
def Call.unnoticed : Call → Bool
  | .pause | .pauseClaims | .unpauseClaims | .proposeUnpause | .approveUnpause | .cancelUnpauseProposal
  | .disableOracleEmergency | .claim | .claimTreasury | .proposeTreasuryPayoutAddressUpdate _
  | .approveTreasuryPayoutAddressUpdate _ | .executeTreasuryPayoutAddressUpdate _
  | .cancelExpiredTreasuryPayoutAddressUpdateProposal _ => true
  | _ => false

private theorem claim_unnoticed (success : claim chain msg s = .ok next) : Unnoticed s next := by
  simp only [claim, whenClaimsNotPaused, bind_eq_ok, require_eq_ok, exists_const, checkedSub_eq_ok,
    safeTransfer_eq_ok, pure_eq_ok] at success
  obtain ⟨_, _, _, ⟨_, rfl⟩, _, ⟨_, _, rfl⟩, rfl⟩ := success
  exact ⟨rfl, _, rfl, by simp [Event.silent]⟩

private theorem claimTreasury_unnoticed (success : claimTreasury chain msg s = .ok next) : Unnoticed s next := by
  simp only [claimTreasury, whenClaimsNotPaused, bind_eq_ok, require_eq_ok, exists_const,
    checkedSub_eq_ok, safeTransfer_eq_ok, pure_eq_ok] at success
  obtain ⟨_, _, _, _, ⟨_, rfl⟩, _, ⟨_, _, rfl⟩, rfl⟩ := success
  exact ⟨rfl, _, rfl, by simp [Event.silent]⟩

private theorem cancelUnpause_unnoticed (msg : Message) (s : World σ) : Unnoticed s (cancelUnpause msg s) :=
  ⟨rfl, _, rfl, by simp [Event.silent]⟩

private theorem proposeUnpause_unnoticed (success : proposeUnpause msg s = .ok next) : Unnoticed s next := by
  simp only [proposeUnpause, onlyAdmin, bind_eq_ok, require_eq_ok, exists_const, pure_eq_ok] at success
  obtain ⟨_, _, _, rfl⟩ := success
  split
  · exact (cancelUnpause_unnoticed msg s).trans ⟨rfl, _, rfl, by simp [Event.silent]⟩
  · exact ⟨rfl, _, rfl, by simp [Event.silent]⟩

private theorem approveUnpause_unnoticed (success : approveUnpause msg s = .ok next) : Unnoticed s next := by
  simp only [approveUnpause, onlyAdmin, bind_eq_ok, require_eq_ok, exists_const] at success
  obtain ⟨_, _, _, _, _, rest⟩ := success
  have recorded : Unnoticed s (recordUnpauseApproval msg s) := ⟨rfl, _, rfl, by simp [Event.silent]⟩
  split at rest
  · obtain ⟨_, _, _, rfl⟩ := executeUnpause_eq_ok.mp rest
    exact recorded.trans ⟨rfl, _, rfl, by simp [Event.silent]⟩
  · cases pure_eq_ok.mp rest
    exact recorded

private theorem disableOracleEmergency_unnoticed (success : disableOracleEmergency msg s = .ok next) :
    Unnoticed s next := by
  simp only [disableOracleEmergency, onlyAdmin, bind_eq_ok, require_eq_ok, exists_const] at success
  obtain ⟨_, _, rest⟩ := success
  split at rest
  · simp only [pausePrimitive, whenNotPaused, bind_eq_ok, require_eq_ok, exists_const,
      pure_eq_ok] at rest
    obtain ⟨_, ⟨_, rfl⟩, rfl⟩ := rest
    exact ⟨rfl, [.paused msg.sender, .oracleDisabledEmergency msg.sender s.oracleAddress],
      List.append_assoc .., by simp [Event.silent]⟩
  · simp only [bind_eq_ok, pure_eq_ok] at rest
    obtain ⟨_, rfl, rfl⟩ := rest
    exact ⟨rfl, _, rfl, by simp [Event.silent]⟩

private theorem execute_unnoticed {call : Call} (unnoticed : call.unnoticed = true)
    (success : execute chain msg call s = .ok next) : Unnoticed s next := by
  cases call with
  | pause =>
    simp only [execute, pause, pausePrimitive, whenNotPaused, onlyAdmin, bind_eq_ok, require_eq_ok,
      exists_const, pure_eq_ok] at success
    obtain ⟨_, _, _, rfl⟩ := success
    exact ⟨rfl, _, rfl, by simp [Event.silent]⟩
  | pauseClaims =>
    simp only [execute, pauseClaims, onlyAdmin, bind_eq_ok, require_eq_ok, exists_const, pure_eq_ok] at success
    obtain ⟨_, _, rfl⟩ := success
    exact ⟨rfl, _, rfl, by simp [Event.silent]⟩
  | unpauseClaims =>
    simp only [execute, unpauseClaims, onlyAdmin, bind_eq_ok, require_eq_ok, exists_const,
      pure_eq_ok] at success
    obtain ⟨_, _, rfl⟩ := success
    exact ⟨rfl, _, rfl, by simp [Event.silent]⟩
  | proposeUnpause => exact proposeUnpause_unnoticed success
  | approveUnpause => exact approveUnpause_unnoticed success
  | cancelUnpauseProposal =>
    simp only [execute, cancelUnpauseProposal, onlyAdmin, bind_eq_ok, require_eq_ok, exists_const,
      pure_eq_ok] at success
    obtain ⟨_, _, _, rfl⟩ := success
    exact cancelUnpause_unnoticed msg s
  | disableOracleEmergency => exact disableOracleEmergency_unnoticed success
  | claim => exact claim_unnoticed success
  | claimTreasury => exact claimTreasury_unnoticed success
  | proposeTreasuryPayoutAddressUpdate newPayoutReceiver =>
    simp only [execute, proposeTreasuryPayoutAddressUpdate, onlyAdmin, bind_eq_ok, require_eq_ok,
      exists_const, pure_eq_ok] at success
    obtain ⟨_, _, _, _, rfl⟩ := success
    exact ⟨rfl, _, rfl, by simp [Event.silent]⟩
  | approveTreasuryPayoutAddressUpdate proposalId =>
    simp only [execute, approveTreasuryPayoutAddressUpdate, onlyAdmin, bind_eq_ok, require_eq_ok,
      exists_const, pure_eq_ok] at success
    obtain ⟨_, _, _, rfl⟩ := success
    exact ⟨rfl, _, rfl, by simp [Event.silent]⟩
  | executeTreasuryPayoutAddressUpdate proposalId =>
    simp only [execute, executeTreasuryPayoutAddressUpdate, onlyAdmin, bind_eq_ok, require_eq_ok,
      exists_const, pure_eq_ok] at success
    obtain ⟨_, _, _, _, rfl⟩ := success
    exact ⟨rfl, _, rfl, by simp [Event.silent]⟩
  | cancelExpiredTreasuryPayoutAddressUpdateProposal proposalId =>
    simp only [execute, cancelExpiredTreasuryPayoutAddressUpdateProposal, onlyAdmin, bind_eq_ok,
      require_eq_ok, exists_const, pure_eq_ok] at success
    obtain ⟨_, _, _, rfl⟩ := success
    exact ⟨rfl, _, rfl, by simp [Event.silent]⟩
  | _ => simp [Call.unnoticed] at unnoticed

theorem posts_openProposal {Matter : Type} (msg : Message) {book : ProposalBook Address Matter} (matter : Matter)
    (fresh : book.cancelled book.counter = false) :
    Notice.Posts book.standings (.proposed book.counter matter) (openProposal msg book matter).standings ∧
      Notice.Posts (openProposal msg book matter).standings (.approved book.counter 1)
        (openProposal msg book matter).standings := by
  have posts := ProposalBook.posts_propose matter msg.timestamp (msg.timestamp + governanceProposalTtl) msg.sender fresh
  have found := ProposalBook.standings_propose matter msg.timestamp (msg.timestamp + governanceProposalTtl) msg.sender fresh
  refine ⟨posts, ?_⟩
  have opened : (openProposal msg book matter).standings book.counter = some ⟨matter, 1, false, false⟩ := by
    rw [openProposal, found, update_self]
  exact .recounted opened

private theorem posts_approveProposal {Matter : Type} {book next : ProposalBook Address Matter}
    (success : approveProposal msg book proposalId = .ok next) :
    Notice.Posts book.standings (.approved proposalId (next.proposals proposalId).approvalCount) next.standings := by
  obtain ⟨_, live, _, rfl⟩ := approveProposal_eq_ok.mp success
  have posts := ProposalBook.posts_approve msg.sender live.known
  simpa using posts

private theorem proposeOracleUpdate_chronicled
    (fresh : s.oracleUpdate.cancelled s.oracleUpdate.counter = false)
    (success : proposeOracleUpdate msg newOracle s = .ok next) : Chronicled s next := by
  simp only [proposeOracleUpdate, onlyAdmin, bind_eq_ok, require_eq_ok, exists_const, pure_eq_ok] at success
  obtain ⟨_, _, _, _, rfl⟩ := success
  let eta := if !s.oracleActive then msg.timestamp else msg.timestamp + s.governanceTimelock
  obtain ⟨opened, counted⟩ := posts_openProposal msg ⟨newOracle, eta, !s.oracleActive⟩ fresh
  exact ⟨_, rfl, .step (.oracleUpdate rfl opened) (.single (.oracleUpdate rfl counted))⟩

private theorem approveOracleUpdate_chronicled (success : approveOracleUpdate msg proposalId s = .ok next) :
    Chronicled s next := by
  simp only [approveOracleUpdate, onlyAdmin, bind_eq_ok, require_eq_ok, exists_const, pure_eq_ok] at success
  obtain ⟨_, book, approved, rfl⟩ := success
  exact .one rfl (.oracleUpdate rfl (posts_approveProposal approved))

private theorem executeOracleUpdate_chronicled (success : executeOracleUpdate msg proposalId s = .ok next) :
    Chronicled s next := by
  simp only [executeOracleUpdate, onlyAdmin, bind_eq_ok, require_eq_ok, exists_const,
    requireExecutable_eq_ok, pure_eq_ok] at success
  obtain ⟨_, ⟨_, live, _⟩, rfl⟩ := success
  exact .one rfl (.oracleUpdate rfl (ProposalBook.posts_execute live.known))

private theorem cancelExpiredOracleUpdateProposal_chronicled
    (success : cancelExpiredOracleUpdateProposal msg proposalId s = .ok next) : Chronicled s next := by
  simp only [cancelExpiredOracleUpdateProposal, onlyAdmin, bind_eq_ok, require_eq_ok, exists_const,
    cancelExpiredProposal_eq_ok, pure_eq_ok] at success
  obtain ⟨_, _, ⟨known, _, _, _, _, rfl⟩, rfl⟩ := success
  exact .one rfl (.oracleUpdate rfl (ProposalBook.posts_cancel known))

private theorem proposeAddAdmin_chronicled (fresh : s.adminAdd.cancelled s.adminAdd.counter = false)
    (success : proposeAddAdmin msg newAdmin s = .ok next) : Chronicled s next := by
  simp only [proposeAddAdmin, onlyAdmin, bind_eq_ok, require_eq_ok, exists_const, pure_eq_ok] at success
  obtain ⟨_, _, _, _, rfl⟩ := success
  obtain ⟨opened, counted⟩ :=
    posts_openProposal msg ⟨newAdmin, msg.timestamp + s.governanceTimelock⟩ fresh
  exact ⟨_, rfl, .step (.adminAdd rfl opened) (.single (.adminAdd rfl counted))⟩

private theorem approveAddAdmin_chronicled (success : approveAddAdmin msg proposalId s = .ok next) :
    Chronicled s next := by
  simp only [approveAddAdmin, onlyAdmin, bind_eq_ok, require_eq_ok, exists_const, pure_eq_ok] at success
  obtain ⟨_, book, approved, rfl⟩ := success
  exact .one rfl (.adminAdd rfl (posts_approveProposal approved))

private theorem executeAddAdmin_chronicled (success : executeAddAdmin msg proposalId s = .ok next) :
    Chronicled s next := by
  simp only [executeAddAdmin, onlyAdmin, bind_eq_ok, require_eq_ok, exists_const,
    requireExecutable_eq_ok, pure_eq_ok] at success
  obtain ⟨_, ⟨_, live, _⟩, _, _, rfl⟩ := success
  exact .one rfl (.adminAdd rfl (ProposalBook.posts_execute live.known))

private theorem cancelExpiredAddAdminProposal_chronicled
    (success : cancelExpiredAddAdminProposal msg proposalId s = .ok next) : Chronicled s next := by
  simp only [cancelExpiredAddAdminProposal, onlyAdmin, bind_eq_ok, require_eq_ok, exists_const,
    cancelExpiredProposal_eq_ok, pure_eq_ok] at success
  obtain ⟨_, _, ⟨known, _, _, _, _, rfl⟩, rfl⟩ := success
  exact .one rfl (.adminAdd rfl (ProposalBook.posts_cancel known))

end Governance

/-- What no call relies on a check for: slots and proposals agree, and identifiers not
handed out yet are not cancelled. -/
structure World.Regular (s : World σ) : Prop where
  unopened : s.Unopened
  orderly : s.docket.Orderly
  oracleUpdate : s.oracleUpdate.cancelled s.oracleUpdate.counter = false
  adminAdd : s.adminAdd.cancelled s.adminAdd.counter = false

private theorem run_regular (run : (escrowSystem chain).Run history s) : s.Regular := by
  have reachable : (escrowSystem chain).Reachable s := ⟨history, run⟩
  have oracle : s.oracleUpdate.Tallied := (oracleUpdates chain).tallied reachable
  have admin : s.adminAdd.Tallied := (adminAdds chain).tallied reachable
  exact ⟨(run_established run).unopened, run_orderly run, (oracle.untouched _ le_rfl).2,
    (admin.untouched _ le_rfl).2⟩

/-- A call tells exactly what it did. -/
theorem execute_chronicled {s next : World σ} {call : Call} (regular : s.Regular)
    (success : execute chain msg call s = .ok next) : Chronicled s next := by
  cases call with
  | createTrade order => exact createTrade_chronicled success
  | releaseFundsStage1 tradeId =>
    obtain ⟨advanced, undisputed, _⟩ := releaseFundsStage1_effect success
    exact moved_chronicled advanced undisputed (releaseFundsStage1_announces success)
  | confirmArrival tradeId =>
    obtain ⟨advanced, undisputed, _⟩ := confirmArrival_effect success
    exact moved_chronicled advanced undisputed (confirmArrival_announces success)
  | openDispute tradeId =>
    obtain ⟨advanced, undisputed, _⟩ := openDispute_effect success
    exact moved_chronicled advanced undisputed (openDispute_announces success)
  | finalizeAfterDisputeWindow tradeId =>
    obtain ⟨advanced, undisputed, _⟩ := finalizeAfterDisputeWindow_effect success
    exact moved_chronicled advanced undisputed (finalizeAfterDisputeWindow_announces success)
  | cancelLockedTradeAfterTimeout tradeId =>
    obtain ⟨advanced, undisputed, _⟩ := cancelLockedTradeAfterTimeout_effect success
    exact moved_chronicled advanced undisputed (cancelLockedTradeAfterTimeout_announces success)
  | refundInTransitAfterTimeout tradeId =>
    obtain ⟨advanced, undisputed, _⟩ := refundInTransitAfterTimeout_effect success
    exact moved_chronicled advanced undisputed (refundInTransitAfterTimeout_announces success)
  | proposeDisputeSolution => exact proposeDisputeSolution_chronicled regular.orderly success
  | approveDisputeSolution => exact approveDisputeSolution_chronicled regular.unopened success
  | cancelExpiredDisputeProposal => exact cancelExpiredDisputeProposal_chronicled success
  | proposeOracleUpdate => exact proposeOracleUpdate_chronicled regular.oracleUpdate success
  | approveOracleUpdate => exact approveOracleUpdate_chronicled success
  | executeOracleUpdate => exact executeOracleUpdate_chronicled success
  | cancelExpiredOracleUpdateProposal => exact cancelExpiredOracleUpdateProposal_chronicled success
  | proposeAddAdmin => exact proposeAddAdmin_chronicled regular.adminAdd success
  | approveAddAdmin => exact approveAddAdmin_chronicled success
  | executeAddAdmin => exact executeAddAdmin_chronicled success
  | cancelExpiredAddAdminProposal => exact cancelExpiredAddAdminProposal_chronicled success
  | _ => exact (execute_unnoticed rfl success).chronicled

private theorem step_chronicled {s next : World σ} (regular : s.Regular)
    (step : (escrowSystem chain).step s action next) : Chronicled s next := by
  obtain ⟨_, _, ⟨msg, call, result, rfl, success, rfl⟩ | ⟨msg, op, usdc, rfl, _, _, rfl⟩⟩ := step_cases step
  · have chronicled : Chronicled s result := execute_chronicled regular success
    exact chronicled
  · exact .quiet (List.append_nil _).symm (by simp) rfl

/-- The events of a run tell the whole of it. -/
theorem run_chronicle (run : (escrowSystem chain).Run history s) :
    chronicle.Trace .empty s.events s.account := by
  apply run.history_invariant (P := fun _ s => chronicle.Trace .empty s.events s.account)
  · rintro s ⟨config, deployed⟩
    obtain ⟨_, _, rfl⟩ := deployed.world
    exact .done _
  · intro earlier s action next run step told
    obtain ⟨news, events, trace⟩ := step_chronicled (run_regular run) step
    rw [events]
    exact told.append trace

end Agroasys.Escrow
