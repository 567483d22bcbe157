import Agroasys.Foundation.Deliberation
import Agroasys.Escrow.Docket
import Agroasys.Escrow.MockUSDC

namespace Agroasys.Escrow

open Function Agroasys.Foundation

variable {σ Op : Type} {chain : Chain σ Op}

def World.docket (s : World σ) : Docket where
  status tradeId := (s.trades tradeId).status
  book := s.dispute
  active := s.tradeHasActiveDisputeProposal
  activeId := s.tradeActiveDisputeProposalId

def Governance.disputeRules (p : Parameters) (g : Governance) : Rules Address DisputeMatter where
  eligible voter := g.isAdmin voter = true
  admissible _ _ := True
  ttl := disputeProposalTtl
  quorum := p.requiredApprovals
  ready _ _ := True

private theorem docket_eq {s next : World σ} (status : ∀ tradeId, (next.trades tradeId).status =
    (s.trades tradeId).status) (undisputed : Undisputed s next) : next.docket = s.docket := by
  have statuses : (fun tradeId => (next.trades tradeId).status) =
      fun tradeId => (s.trades tradeId).status := funext status
  simp only [World.docket, statuses, undisputed.dispute, undisputed.slot, undisputed.slotId]

private theorem status_update (trades : Nat → Trade) (tradeId : Nat) (trade : Trade) :
    (fun other => (update trades tradeId trade other).status) =
      update (fun other => (trades other).status) tradeId trade.status := by
  funext other
  by_cases same : other = tradeId
  · subst same; simp
  · simp [same]

/-- Moves of trades that are not in dispute. -/
theorem Advanced.docket_step {s next : World σ} (advanced : Advanced s now tradeId move next)
    (undisputed : Undisputed s next) (other : ∀ decision, move ≠ .executeDispute decision) :
    Docket.Step rules now voter s.docket next.docket := by
  have trades : next.trades = update s.trades tradeId (move.advance now (s.trades tradeId)) :=
    (congrArg Custody.trades advanced.custody).trans (Custody.perform_trades ..)
  have docket : next.docket = { s.docket with status := update s.docket.status tradeId move.target } := by
    simp only [World.docket, trades, status_update, Move.advance_status, undisputed.dispute,
      undisputed.slot, undisputed.slotId]
  rw [docket]
  have source : s.docket.status tradeId = move.source := advanced.source
  refine .moved tradeId move.target ?_ ?_
  · rw [source]
    cases move with
    | executeDispute decision => exact absurd rfl (other decision)
    | _ => decide
  · rw [source]
    cases move <;> simp [Move.source]

private theorem Settled.docket {s next : World σ} (settled : Settled s now proposalId next) :
    next.docket = s.docket.settle proposalId := by
  have trades := (congrArg Custody.trades settled.custody).trans (Custody.perform_trades ..)
  simp only [World.custody] at trades
  simp only [World.docket, trades, status_update, Move.advance_status, settled.dispute, settled.slot,
    settled.slotId]
  rfl

private theorem Settled.docket_step {s next : World σ} (settled : Settled s now proposalId next)
    (known : proposalId < s.dispute.counter) (eligible : rules.eligible voter)
    (quorum : rules.quorum = s.requiredApprovals) (ready : ∀ matter, rules.ready matter now) :
    Docket.Step rules now voter s.docket next.docket := by
  rw [settled.docket]
  have live : s.dispute.Live proposalId now :=
    ⟨known, settled.pending, settled.standing, settled.unexpired⟩
  exact .settled proposalId ⟨eligible, live, quorum ▸ settled.quorum, ready _⟩ settled.frozen

private theorem proposeDisputeSolution_docket {s next : World σ}
    (success : proposeDisputeSolution msg tradeId decision s = .ok next) :
    Docket.Steps (s.disputeRules s.toParameters) msg.timestamp msg.sender s.docket next.docket := by
  obtain ⟨admin, _, _, frozen, vacated, vacates, rest⟩ := proposeDisputeSolution_effect success
  have undecided := vacates.undecided
  have frozen : vacated.docket.status tradeId = .frozen := by
    simp only [World.docket, undecided.trades, frozen]
  have vacating : Docket.Steps (s.disputeRules s.toParameters) msg.timestamp msg.sender s.docket
      vacated.docket ∧ vacated.docket.active tradeId = false := by
    rcases vacates.slots with ⟨free, undisputed⟩ | ⟨active, expired, standing, book, slot, slotId⟩
    · rw [docket_eq (fun _ => by rw [undecided.trades]) undisputed]
      exact ⟨.refl, free⟩
    · have docket : vacated.docket =
          (s.docket.strike (s.docket.activeId tradeId)).release tradeId := by
        simp only [World.docket, undecided.trades, book, slot, slotId]
        rfl
      rw [docket]
      exact ⟨.single (.vacated tradeId admin active standing expired), by simp [Docket.release]⟩
  have filing : Docket.Step (s.disputeRules s.toParameters) msg.timestamp msg.sender vacated.docket
      (recordDisputeProposal msg tradeId decision vacated).docket :=
    .filed ⟨tradeId, decision⟩ admin trivial frozen vacating.2
  have filed := vacating.1.tail filing
  rcases rest with rfl | settled
  · exact filed
  · refine filed.tail (settled.docket_step ?_ admin ?_ fun _ => trivial)
    · exact Nat.lt_succ_self _
    · exact congrArg Parameters.requiredApprovals undecided.unruled.parameters.symm

private theorem approveDisputeSolution_docket {s next : World σ}
    (success : approveDisputeSolution msg proposalId s = .ok next) :
    Docket.Steps (s.disputeRules s.toParameters) msg.timestamp msg.sender s.docket next.docket := by
  obtain ⟨admin, _, live, fresh, _, rest⟩ := approveDisputeSolution_effect success
  have seconding : Docket.Step (s.disputeRules s.toParameters) msg.timestamp msg.sender s.docket
      (recordDisputeApproval msg proposalId s).docket := .seconded proposalId admin live fresh
  rcases rest with rfl | settled
  · exact .single seconding
  · exact .tail (.single seconding) (settled.docket_step live.known admin rfl fun _ => trivial)

private theorem cancelExpiredDisputeProposal_docket {s next : World σ}
    (success : cancelExpiredDisputeProposal msg proposalId s = .ok next) :
    Docket.Step (s.disputeRules s.toParameters) msg.timestamp msg.sender s.docket next.docket := by
  obtain ⟨admin, _, known, pending, standing, expired, undecided, book, slots⟩ :=
    cancelExpiredDisputeProposal_effect success
  rcases slots with ⟨active, holder, slot, slotId⟩ | ⟨displaced, slot, slotId⟩
  · have docket : next.docket = (s.docket.strike proposalId).release
        (s.docket.book.proposals proposalId).matter.tradeId := by
      simp only [World.docket, undecided.trades, book, slot, slotId]
      rfl
    rw [docket]
    exact .lapsed proposalId admin known pending standing expired ⟨active, holder⟩
  · have docket : next.docket = s.docket.strike proposalId := by
      simp only [World.docket, undecided.trades, book, slot, slotId]
      rfl
    rw [docket]
    exact .abandoned proposalId admin known pending standing expired displaced

/-- Every call of the contract is some steps of its docket. -/
theorem execute_docket {s next : World σ} {call : Call} (unopened : s.Unopened)
    (success : execute chain msg call s = .ok next) :
    Docket.Steps (s.disputeRules s.toParameters) msg.timestamp msg.sender s.docket next.docket := by
  cases settles : call.settles with
  | false =>
    have governed := execute_governed settles success
    have same : next.docket = s.docket := by
      simp only [World.docket, governed.settlement]
    rw [same]
  | true =>
    cases call with
    | createTrade order =>
      obtain ⟨created, undisputed, _⟩ := createTrade_effect success
      have trades : next.trades = update s.trades s.tradeCounter _ :=
        congrArg Custody.trades created.custody
      rw [docket_eq (fun tradeId => ?_) undisputed]
      by_cases same : tradeId = s.tradeCounter
      · subst same
        rw [trades, update_self, (unopened _ le_rfl).1]
        rfl
      · rw [trades, update_of_ne same]
    | claim =>
      obtain ⟨withdrawn, undisputed, _⟩ := claim_effect success
      have trades : next.trades = s.trades := congrArg Custody.trades withdrawn.custody
      rw [docket_eq (fun _ => by rw [trades]) undisputed]
    | claimTreasury =>
      obtain ⟨withdrawn, undisputed, _⟩ := claimTreasury_effect success
      have trades : next.trades = s.trades := congrArg Custody.trades withdrawn.custody
      rw [docket_eq (fun _ => by rw [trades]) undisputed]
    | releaseFundsStage1 tradeId =>
      obtain ⟨advanced, undisputed, _⟩ := releaseFundsStage1_effect success
      exact .single (advanced.docket_step undisputed (by simp))
    | confirmArrival tradeId =>
      obtain ⟨advanced, undisputed, _⟩ := confirmArrival_effect success
      exact .single (advanced.docket_step undisputed (by simp))
    | openDispute tradeId =>
      obtain ⟨advanced, undisputed, _⟩ := openDispute_effect success
      exact .single (advanced.docket_step undisputed (by simp))
    | finalizeAfterDisputeWindow tradeId =>
      obtain ⟨advanced, undisputed, _⟩ := finalizeAfterDisputeWindow_effect success
      exact .single (advanced.docket_step undisputed (by simp))
    | cancelLockedTradeAfterTimeout tradeId =>
      obtain ⟨advanced, undisputed, _⟩ := cancelLockedTradeAfterTimeout_effect success
      exact .single (advanced.docket_step undisputed (by simp))
    | refundInTransitAfterTimeout tradeId =>
      obtain ⟨advanced, undisputed, _⟩ := refundInTransitAfterTimeout_effect success
      exact .single (advanced.docket_step undisputed (by simp))
    | proposeDisputeSolution => exact proposeDisputeSolution_docket success
    | approveDisputeSolution => exact approveDisputeSolution_docket success
    | cancelExpiredDisputeProposal => exact .single (cancelExpiredDisputeProposal_docket success)
    | _ => simp [Call.settles] at settles

private theorem step_docket {s next : World σ} (unopened : s.Unopened)
    (step : (escrowSystem chain).step s action next) :
    Docket.Steps (s.disputeRules s.toParameters) action.message.timestamp action.message.sender s.docket
      next.docket := by
  obtain ⟨_, _, ⟨msg, call, result, rfl, success, rfl⟩ | ⟨msg, op, usdc, rfl, _, _, rfl⟩⟩ := step_cases step
  · have steps : Docket.Steps (s.disputeRules s.toParameters) msg.timestamp msg.sender s.docket
        result.docket := execute_docket unopened success
    exact steps
  · exact .refl

theorem deployed_docket {config : Config} {s : World σ} (deployed : config.Deployed s) :
    s.dispute = .empty ⟨0, .refund⟩ .zero ∧ s.tradeHasActiveDisputeProposal = fun _ => false := by
  obtain ⟨_, _, rfl⟩ := deployed.world
  exact ⟨rfl, rfl⟩

theorem run_orderly (run : (escrowSystem chain).Run history final) : final.docket.Orderly := by
  apply run.history_invariant (P := fun _ s => s.docket.Orderly)
  · rintro s ⟨config, deployed⟩
    obtain ⟨book, slot⟩ := deployed_docket deployed
    constructor <;> simp [World.docket, book, slot]
  · intro earlier s action next run step orderly
    exact (step_docket (run_established run).unopened step).orderly orderly

def disputes (chain : Chain σ Op) : Deliberation (escrowSystem chain) Address DisputeMatter where
  book s := s.dispute
  rules s := s.disputeRules s.toParameters
  time action := action.message.timestamp
  voter action := action.message.sender
  opened _ := fun ⟨_, deployed⟩ => ⟨_, _, (deployed_docket deployed).1⟩
  steps s action next reachable step := by
    obtain ⟨history, run⟩ := reachable
    exact (step_docket (run_established run).unopened step).book (run_orderly run)

/-- A dispute proposal for a trade that is neither executed nor cancelled. -/
structure OpenProposal (s : World σ) (tradeId proposalId : Nat) : Prop where
  known : proposalId < s.dispute.counter
  trade : (s.dispute.proposals proposalId).matter.tradeId = tradeId
  pending : (s.dispute.proposals proposalId).executed = false
  standing : s.dispute.cancelled proposalId = false

private theorem Docket.Orderly.slot_iff {s : World σ} (orderly : s.docket.Orderly) :
    s.tradeHasActiveDisputeProposal tradeId = true ↔ ∃ proposalId, OpenProposal s tradeId proposalId := by
  constructor
  · intro active
    obtain ⟨known, trade, pending, standing, _⟩ := orderly.held tradeId active
    exact ⟨_, known, trade, pending, standing⟩
  · rintro ⟨proposalId, known, rfl, pending, standing⟩
    exact (orderly.listed proposalId known pending standing).1

private theorem Docket.Orderly.named {s : World σ} (orderly : s.docket.Orderly)
    (proposal : OpenProposal s tradeId proposalId) :
    s.tradeActiveDisputeProposalId tradeId = proposalId ∧ (s.trades tradeId).status = .frozen := by
  obtain ⟨known, rfl, pending, standing⟩ := proposal
  obtain ⟨active, named⟩ := orderly.listed proposalId known pending standing
  exact ⟨named, (orderly.held _ active).2.2.2.2⟩

/-- A cancelled proposal stays cancelled, and no call approves or executes it. -/
theorem cancelled_dispute_final (reachable : (escrowSystem chain).Reachable s)
    (path : Path (escrowSystem chain) s history final) (known : proposalId < s.dispute.counter)
    (cancelled : s.dispute.cancelled proposalId = true) :
    final.dispute.cancelled proposalId = true ∧
      (final.dispute.proposals proposalId).executed = false ∧
      ∀ msg next, approveDisputeSolution msg proposalId final ≠ .ok next := by
  have gone : final.dispute.cancelled proposalId = true :=
    ((disputes chain).cancelled_for_good reachable path known cancelled).1
  have valid : final.dispute.Tallied := (disputes chain).tallied (by
    obtain ⟨earlier, run⟩ := reachable
    exact ⟨_, run.extend path⟩)
  refine ⟨gone, ?_, ?_⟩
  · by_contra done
    have standing := valid.exclusive proposalId (by simpa using done)
    simp [gone] at standing
  · intro msg next success
    obtain ⟨_, _, live, _⟩ := approveDisputeSolution_effect success
    have standing := live.standing
    simp [gone] at standing

/-- The slot of a trade is taken exactly while there is an open proposal for it;
that proposal is the only one, the slot names it and the trade is frozen. A
proposal that a newer one has superseded is over, and at most one proposal ever
settles a trade. -/
theorem dispute_slots (run : (escrowSystem chain).Run history s) :
    (∀ tradeId, s.tradeHasActiveDisputeProposal tradeId = true ↔
      ∃ proposalId, OpenProposal s tradeId proposalId) ∧
    (∀ tradeId proposalId, OpenProposal s tradeId proposalId →
      (∀ other, OpenProposal s tradeId other → other = proposalId) ∧
      s.tradeActiveDisputeProposalId tradeId = proposalId ∧ (s.trades tradeId).status = .frozen) ∧
    (∀ older newer, older < newer → newer < s.dispute.counter →
      (s.dispute.proposals older).matter.tradeId = (s.dispute.proposals newer).matter.tradeId →
      ∀ later final, Path (escrowSystem chain) s later final →
        final.dispute.cancelled older = true ∧ (final.dispute.proposals older).executed = false ∧
          ∀ msg next, approveDisputeSolution msg older final ≠ .ok next) ∧
    ∀ first second, first < s.dispute.counter → second < s.dispute.counter →
      (s.dispute.proposals first).executed = true → (s.dispute.proposals second).executed = true →
      (s.dispute.proposals first).matter.tradeId = (s.dispute.proposals second).matter.tradeId →
      first = second := by
  have orderly := run_orderly run
  have reachable : (escrowSystem chain).Reachable s := ⟨history, run⟩
  have exclusive := ((disputes chain).tallied reachable).exclusive
  refine ⟨fun tradeId => orderly.slot_iff, ?_, ?_, ?_⟩
  · intro tradeId proposalId proposal
    obtain ⟨named, frozen⟩ := orderly.named proposal
    exact ⟨fun other open_ => (orderly.named open_).1.symm.trans named, named, frozen⟩
  · intro older newer before known trade later final path
    have struck := orderly.superseded older newer before known trade
    exact cancelled_dispute_final reachable path (before.trans known) struck
  · intro first second knownFirst knownSecond executedFirst executedSecond trade
    rcases Nat.lt_trichotomy first second with before | same | after
    · have struck : s.dispute.cancelled first = true :=
        orderly.superseded first second before knownSecond trade
      have standing : s.dispute.cancelled first = false := exclusive first executedFirst
      simp [struck] at standing
    · exact same
    · have struck : s.dispute.cancelled second = true :=
        orderly.superseded second first after knownFirst trade.symm
      have standing : s.dispute.cancelled second = false := exclusive second executedSecond
      simp [struck] at standing

open Mock in
/-- A frozen trade whose first dispute proposal expired and was replaced. -/
def supersededProposal : List (Action MockUSDC.Operation) :=
  [call buyer 1 (.createTrade order), call oracle 2 (.releaseFundsStage1 0),
   call oracle 3 (.confirmArrival 0), call buyer 4 (.openDispute 0),
   call admin1 5 (.proposeDisputeSolution 0 .refund),
   call admin2 700000 (.proposeDisputeSolution 0 .resolve)]

open Mock in
theorem supersededProposal_over : ∃ s,
    scenario (config [admin1, admin2] 2) supersededProposal = some s ∧
      s.tradeHasActiveDisputeProposal 0 = true ∧ s.tradeActiveDisputeProposalId 0 = 1 ∧
      ∀ later final, Path (escrowSystem mockChain) s later final →
        final.dispute.cancelled 0 = true ∧
          ∀ msg next, approveDisputeSolution msg 0 final ≠ .ok next := by
  have outcome : (scenario (config [admin1, admin2] 2) supersededProposal).map (fun s =>
      (s.dispute.counter, (s.dispute.proposals 0).matter, (s.dispute.proposals 1).matter,
        (s.dispute.proposals 1).executed, s.dispute.cancelled 1)) =
      some (2, ⟨0, .refund⟩, ⟨0, .resolve⟩, false, false) := by decide +kernel
  obtain ⟨s, reached, facts⟩ := Option.map_eq_some_iff.mp outcome
  obtain ⟨history, run⟩ := scenario_run reached
  simp only [Prod.mk.injEq] at facts
  obtain ⟨counter, older, newer, pending, standing⟩ := facts
  obtain ⟨slot, named, superseded, _⟩ := dispute_slots run
  have proposal : OpenProposal s 0 1 := ⟨by omega, by rw [newer], pending, standing⟩
  refine ⟨s, reached, (slot 0).mpr ⟨1, proposal⟩, (named 0 1 proposal).2.1, fun later final path => ?_⟩
  obtain ⟨cancelled, _, refused⟩ :=
    superseded 0 1 Nat.zero_lt_one (by omega) (by rw [older, newer]) later final path
  exact ⟨cancelled, refused⟩

end Agroasys.Escrow
