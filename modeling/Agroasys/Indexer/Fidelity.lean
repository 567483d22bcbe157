import Mathlib.Tactic.IntervalCases
import Agroasys.Escrow.MockUSDC
import Agroasys.Indexer.Mirror

/-! When the indexer's tables equal the contract: trades unless a dispute settles them, and
proposals unless a refund is proposed or an oracle or admin proposal executed. -/

namespace Agroasys.Indexer

open Function Agroasys.Foundation Agroasys.Runtime

variable {Raw σ Op : Type} {chain : Escrow.Chain σ Op} {ethers : Ethers Raw} {encode : Escrow.Event → Raw}
  {getAddress : Escrow.Address → String}

/-- The entity of a trade equals the trade. -/
def TradeMirrored (c : Contents) (tradeId : Nat) (trade : Escrow.Trade) : Prop :=
  ∃ entity, c.trades (toString tradeId) = some entity ∧ SameOrder tradeId trade entity ∧
    entity.status = .of trade.status

private theorem settled_iff {s : Escrow.World σ} : s.account.Settled tradeId ↔
    ∃ proposalId, proposalId < s.dispute.counter ∧ (s.dispute.proposals proposalId).executed = true ∧
      (s.dispute.proposals proposalId).matter.tradeId = tradeId := by
  constructor
  · rintro ⟨proposalId, standing, present, executed, about⟩
    have found : s.dispute.standings proposalId = some standing := present
    by_cases known : proposalId < s.dispute.counter
    · rw [ProposalBook.standings_known known] at found
      obtain rfl := Option.some.inj found
      exact ⟨proposalId, known, executed, about⟩
    · simp [ProposalBook.standings, known] at found
  · rintro ⟨proposalId, known, executed, about⟩
    exact ⟨proposalId, _, ProposalBook.standings_known known, executed, about⟩

/-- A trade is mirrored unless a dispute settled it. -/
theorem Shows.trade_mirrored_iff {c : Contents} (shows : Shows account c)
    (found : account.trades tradeId = some trade) :
    TradeMirrored c tradeId trade ↔ ¬ account.Settled tradeId := by
  obtain ⟨entity, present, shown⟩ := shows.trades tradeId trade found
  constructor
  · rintro ⟨other, stored, _, status⟩ settled
    obtain rfl := Option.some.inj (present.symm.trans stored)
    obtain ⟨same, known, closed⟩ := shows.coherent tradeId settled
    obtain rfl := Option.some.inj (found.symm.trans known)
    rw [shown.stuck settled, closed] at status
    cases status
  · intro unsettled
    exact ⟨entity, present, shown.order, shown.status unsettled⟩

/-- After any feed of the events of any run, the tables mirror every trade exactly if no
dispute proposal was executed. -/
theorem trades_mirrored_iff (decodes : ethers.Decodes encode getAddress)
    (run : (Escrow.escrowSystem chain).Run history s)
    (brings : Brings ethers escrowAddress encode batches s.events) :
    (∀ tradeId, tradeId < s.tradeCounter →
        TradeMirrored (index ethers escrowAddress batches).stored tradeId (s.trades tradeId)) ↔
      ∀ proposalId, proposalId < s.dispute.counter → (s.dispute.proposals proposalId).executed = false := by
  have shows := index_shows decodes run brings
  constructor
  · intro mirrored proposalId known
    by_contra executed
    have settled : s.account.Settled (s.dispute.proposals proposalId).matter.tradeId :=
      settled_iff.mpr ⟨proposalId, known, by simpa using executed, rfl⟩
    obtain ⟨trade, found, _⟩ := shows.coherent _ settled
    by_cases opened : (s.dispute.proposals proposalId).matter.tradeId < s.tradeCounter
    · exact (shows.trade_mirrored_iff (if_pos opened)).mp (mirrored _ opened) settled
    · have missing : s.account.trades (s.dispute.proposals proposalId).matter.tradeId = none := if_neg opened
      simp [missing] at found
  · intro pending tradeId opened
    refine (shows.trade_mirrored_iff (if_pos opened)).mpr fun settled => ?_
    obtain ⟨proposalId, known, executed, _⟩ := settled_iff.mp settled
    simp [pending proposalId known] at executed

/-- The columns of a proposal that the three families share. -/
def Counted {Matter Subject : Type} (standing : Standing Matter) (entity : Proposal Subject) : Prop :=
  entity.approvalCount = standing.approvalCount ∧ entity.executed = standing.executed ∧
    entity.cancelled = standing.cancelled

/-- A dispute proposal, with the rows about its payout and its final decision. -/
structure DisputeMirrored (c : Contents) (proposalId : Nat) (standing : Standing Escrow.DisputeMatter) : Prop where
  entity : ∃ entity, c.disputeProposals (toString proposalId) = some entity ∧ Counted standing entity ∧
    entity.subject.trade = toString standing.matter.tradeId ∧
    entity.subject.disputeStatus = .of standing.matter.disputeStatus
  payouts : ∀ row ∈ c.tradeEvents, row.eventName = "DisputePayout" →
    row.relatedProposalId = some (toString proposalId) →
    row.payoutType = some (.of standing.matter.disputeStatus)
  finals : ∀ row ∈ c.disputeEvents, row.eventName = "DisputeFinalized" → row.dispute = toString proposalId →
    row.finalDisputeStatus = some (.of standing.matter.disputeStatus)
  listed : standing.executed = true →
    (∃ row ∈ c.tradeEvents, row.eventName = "DisputePayout" ∧
      row.relatedProposalId = some (toString proposalId)) ∧
    ∃ row ∈ c.disputeEvents, row.eventName = "DisputeFinalized" ∧ row.dispute = toString proposalId

/-- The tables equal the three books of proposals. -/
structure ProposalsMirrored (c : Contents) (s : Escrow.World σ) : Prop where
  disputes : ∀ proposalId, proposalId < s.dispute.counter →
    DisputeMirrored c proposalId (s.dispute.standing proposalId)
  oracleUpdates : ∀ proposalId, proposalId < s.oracleUpdate.counter →
    ∃ entity, c.oracleUpdateProposals (toString proposalId) = some entity ∧
      Counted (s.oracleUpdate.standing proposalId) entity
  adminAdds : ∀ proposalId, proposalId < s.adminAdd.counter →
    ∃ entity, c.adminAddProposals (toString proposalId) = some entity ∧
      Counted (s.adminAdd.standing proposalId) entity

private theorem Shows.dispute_mirrored_iff {c : Contents} {s : Escrow.World σ} (shows : Shows s.account c)
    (known : proposalId < s.dispute.counter) :
    DisputeMirrored c proposalId (s.dispute.standing proposalId) ↔
      (s.dispute.proposals proposalId).matter.disputeStatus ≠ .refund := by
  have found : s.account.disputes proposalId = some (s.dispute.standing proposalId) :=
    ProposalBook.standings_known known
  obtain ⟨entity, present, shown⟩ := shows.disputes proposalId _ found
  constructor
  · rintro ⟨⟨other, stored, _, _, decision⟩, _⟩ refund
    obtain rfl := Option.some.inj (present.symm.trans stored)
    rw [shown.resolve, ProposalBook.standing, refund] at decision
    cases decision
  · intro resolve
    have decision : DisputeStatus.of (s.dispute.standing proposalId).matter.disputeStatus = .resolve := by
      cases status : (s.dispute.proposals proposalId).matter.disputeStatus with
      | refund => exact absurd status resolve
      | resolve => simp [ProposalBook.standing, status, DisputeStatus.of]
    constructor
    · refine ⟨entity, present, ⟨shown.approvalCount, shown.executed, shown.cancelled⟩, shown.trade, ?_⟩
      rw [shown.resolve, decision]
    · intro row member named _
      rw [shows.payouts.resolve row member named, decision]
    · intro row member named _
      rw [shows.finals.resolve row member named, decision]
    · intro executed
      refine ⟨shows.payouts.listed proposalId ?_, shows.finals.listed proposalId ⟨_, _, found, executed, rfl⟩⟩
      have done : (s.dispute.proposals proposalId).executed = true := executed
      simp [Escrow.World.account, ProposalBook.enacted, known, done]

/-- An entity that is never marked as executed is right while the proposal is not. -/
theorem pending_counted_iff {Matter Subject : Type} {standing : Standing Matter} {entity : Proposal Subject}
    {entries : String → Option (Proposal Subject)} (present : entries (toString proposalId) = some entity)
    (shown : ShowsPending proposalId standing entity) :
    (∃ other, entries (toString proposalId) = some other ∧ Counted standing other) ↔
      standing.executed = false := by
  constructor
  · rintro ⟨other, stored, _, executed, _⟩
    obtain rfl := Option.some.inj (present.symm.trans stored)
    rw [← executed, shown.executed]
  · intro pending
    exact ⟨entity, present, shown.approvalCount, by rw [shown.executed, pending], shown.cancelled⟩

/-- After any feed of the events of any run, the tables mirror all proposals exactly if no
refund was proposed and no oracle or admin proposal was executed. -/
theorem proposals_mirrored_iff (decodes : ethers.Decodes encode getAddress)
    (run : (Escrow.escrowSystem chain).Run history s)
    (brings : Brings ethers escrowAddress encode batches s.events) :
    ProposalsMirrored (index ethers escrowAddress batches).stored s ↔
      (∀ proposalId, proposalId < s.dispute.counter →
          (s.dispute.proposals proposalId).matter.disputeStatus ≠ .refund) ∧
        (∀ proposalId, proposalId < s.oracleUpdate.counter →
          (s.oracleUpdate.proposals proposalId).executed = false) ∧
        ∀ proposalId, proposalId < s.adminAdd.counter →
          (s.adminAdd.proposals proposalId).executed = false := by
  have shows := index_shows decodes run brings
  have oracle : ∀ proposalId, proposalId < s.oracleUpdate.counter →
      ((∃ entity, (index ethers escrowAddress batches).stored.oracleUpdateProposals (toString proposalId) =
          some entity ∧ Counted (s.oracleUpdate.standing proposalId) entity) ↔
        (s.oracleUpdate.proposals proposalId).executed = false) := by
    intro proposalId known
    obtain ⟨entity, present, shown⟩ := shows.oracleUpdates proposalId _ (ProposalBook.standings_known known)
    exact pending_counted_iff present shown
  have admin : ∀ proposalId, proposalId < s.adminAdd.counter →
      ((∃ entity, (index ethers escrowAddress batches).stored.adminAddProposals (toString proposalId) =
          some entity ∧ Counted (s.adminAdd.standing proposalId) entity) ↔
        (s.adminAdd.proposals proposalId).executed = false) := by
    intro proposalId known
    obtain ⟨entity, present, shown⟩ := shows.adminAdds proposalId _ (ProposalBook.standings_known known)
    exact pending_counted_iff present shown
  constructor
  · intro mirrored
    exact ⟨fun proposalId known => (shows.dispute_mirrored_iff known).mp (mirrored.disputes proposalId known),
      fun proposalId known => (oracle proposalId known).mp (mirrored.oracleUpdates proposalId known),
      fun proposalId known => (admin proposalId known).mp (mirrored.adminAdds proposalId known)⟩
  · rintro ⟨resolve, oraclePending, adminPending⟩
    exact ⟨fun proposalId known => (shows.dispute_mirrored_iff known).mpr (resolve proposalId known),
      fun proposalId known => (oracle proposalId known).mpr (oraclePending proposalId known),
      fun proposalId known => (admin proposalId known).mpr (adminPending proposalId known)⟩

section Plain

/-- An ethers that takes an event for its own encoding and writes addresses in lower case. -/
def plainEthers : Ethers Escrow.Event where
  parseLog event := some (decode addressText event)
  keccak256 _ := none

private theorem lower_digit (digit : Nat) : (Nat.digitChar (digit % 16)).toLower = Nat.digitChar (digit % 16) := by
  have small : digit % 16 < 16 := Nat.mod_lt _ (by decide)
  generalize digit % 16 = value at small
  interval_cases value <;> rfl

theorem toLowerCase_hexText (digits value : Nat) : toLowerCase (hexText digits value) = hexText digits value := by
  have start : List.map Char.toLower "0x".toList = "0x".toList := by decide
  simp only [toLowerCase, hexText, String.toList_append, List.map_append, String.toList_ofList, List.map_map,
    start, String.ofList_append, String.ofList_toList]
  congr 2
  simp [lower_digit]

theorem plainEthers_decodes : plainEthers.Decodes id addressText :=
  ⟨fun _ => rfl, fun _ => toLowerCase_hexText ..⟩

def plainLog (event : Escrow.Event) : ChainEvent Escrow.Event where
  id := "e"
  name := "Revive.ContractEmitted"
  extrinsicIndex := none
  contract := "0x1000"
  raw := event

/-- All events in one block and one batch. -/
def plainFeed (events : List Escrow.Event) : List (List (Block Escrow.Event)) :=
  [[{ height := 1, timestamp := some 0, events := events.map plainLog, extrinsics := [] }]]

theorem plainFeed_brings (events : List Escrow.Event) :
    Brings plainEthers "0x1000" id (plainFeed events) events where
  emitted := by
    have address : toLowerCase "0x1000" = "0x1000" := by decide
    have ours : ∀ event, (plainLog event).escrow "0x1000" = true := by
      intro event
      simp [ChainEvent.escrow, plainLog, address]
    have all : (events.map plainLog).filter (·.escrow "0x1000") = events.map plainLog := by
      simp [List.filter_map, Function.comp_def, ours]
    simp [emissions, plainFeed, all, plainLog, Function.comp_def]
  distinguished batch known block inside event member := by
    simp only [plainFeed, List.mem_singleton] at known
    subst known
    rw [List.mem_singleton] at inside
    subst inside
    obtain ⟨raw, _, rfl⟩ := List.mem_map.mp member
    rfl

open Escrow.Mock in
/-- A trade that a single admin settles with a refund. -/
def refundedTrade : List (Escrow.Action Escrow.MockUSDC.Operation) :=
  [call buyer 1 (.createTrade order), call oracle 2 (.releaseFundsStage1 0),
   call oracle 3 (.confirmArrival 0), call buyer 4 (.openDispute 0),
   call admin1 5 (.proposeDisputeSolution 0 .refund)]

open Escrow.Mock in
private theorem refundedTrade_outcome : ∃ history s,
    (Escrow.escrowSystem Escrow.mockChain).Run history s ∧ 0 < s.tradeCounter ∧ 0 < s.dispute.counter ∧
      (s.dispute.proposals 0).executed = true ∧ (s.dispute.proposals 0).matter = ⟨0, .refund⟩ := by
  have outcome : (scenario (config [admin1, admin2] 1) refundedTrade).map (fun s =>
      (s.tradeCounter, s.dispute.counter, (s.dispute.proposals 0).executed, (s.dispute.proposals 0).matter)) =
      some (1, 1, true, ⟨0, .refund⟩) := by decide +kernel
  obtain ⟨s, reached, facts⟩ := Option.map_eq_some_iff.mp outcome
  obtain ⟨history, run⟩ := scenario_run reached
  simp only [Prod.mk.injEq] at facts
  obtain ⟨trades, disputes, executed, matter⟩ := facts
  exact ⟨history, s, run, by omega, by omega, executed, matter⟩

/-- The indexed trade stays frozen after its settlement. -/
theorem refundedTrade_frozen : ¬ ∀ history s, (Escrow.escrowSystem Escrow.mockChain).Run history s →
    ∀ tradeId, tradeId < s.tradeCounter →
      TradeMirrored (index plainEthers "0x1000" (plainFeed s.events)).stored tradeId (s.trades tradeId) := by
  intro mirrored
  obtain ⟨history, s, run, opened, known, executed, matter⟩ := refundedTrade_outcome
  have shows := index_shows plainEthers_decodes run (plainFeed_brings s.events)
  have settled : s.account.Settled 0 := settled_iff.mpr ⟨0, known, executed, by rw [matter]⟩
  exact (shows.trade_mirrored_iff (if_pos opened)).mp (mirrored history s run 0 opened) settled

/-- The indexed proposal says resolve where a refund was proposed. -/
theorem refundedTrade_misread : ¬ ∀ history s, (Escrow.escrowSystem Escrow.mockChain).Run history s →
    ProposalsMirrored (index plainEthers "0x1000" (plainFeed s.events)).stored s := by
  intro mirrored
  obtain ⟨history, s, run, _, known, _, matter⟩ := refundedTrade_outcome
  have shows := index_shows plainEthers_decodes run (plainFeed_brings s.events)
  exact (shows.dispute_mirrored_iff known).mp ((mirrored history s run).disputes 0 known) (by rw [matter])

open Escrow.Mock in
/-- A trade on its way, with an oracle update proposed. -/
def undisputedTrade : List (Escrow.Action Escrow.MockUSDC.Operation) :=
  [call buyer 1 (.createTrade order), call oracle 2 (.releaseFundsStage1 0),
   call admin1 3 (.proposeOracleUpdate ⟨0x0B⟩)]

open Escrow.Mock in
private theorem undisputedTrade_outcome : ∃ history s,
    (Escrow.escrowSystem Escrow.mockChain).Run history s ∧ s.tradeCounter = 1 ∧ s.dispute.counter = 0 ∧
      s.oracleUpdate.counter = 1 ∧ (s.oracleUpdate.proposals 0).executed = false ∧ s.adminAdd.counter = 0 := by
  have outcome : (scenario (config [admin1, admin2] 1) undisputedTrade).map (fun s =>
      (s.tradeCounter, s.dispute.counter, s.oracleUpdate.counter, (s.oracleUpdate.proposals 0).executed,
        s.adminAdd.counter)) = some (1, 0, 1, false, 0) := by decide +kernel
  obtain ⟨s, reached, facts⟩ := Option.map_eq_some_iff.mp outcome
  obtain ⟨history, run⟩ := scenario_run reached
  simp only [Prod.mk.injEq] at facts
  exact ⟨history, s, run, facts⟩

theorem undisputedTrade_mirrored : ∃ history s,
    (Escrow.escrowSystem Escrow.mockChain).Run history s ∧ s.tradeCounter = 1 ∧
      TradeMirrored (index plainEthers "0x1000" (plainFeed s.events)).stored 0 (s.trades 0) := by
  obtain ⟨history, s, run, opened, known, _⟩ := undisputedTrade_outcome
  refine ⟨history, s, run, opened, ?_⟩
  refine (trades_mirrored_iff plainEthers_decodes run (plainFeed_brings s.events)).mpr ?_ 0 (by omega)
  intro proposalId below
  omega

theorem undisputedTrade_proposals_mirrored : ∃ history s,
    (Escrow.escrowSystem Escrow.mockChain).Run history s ∧ s.oracleUpdate.counter = 1 ∧
      ProposalsMirrored (index plainEthers "0x1000" (plainFeed s.events)).stored s := by
  obtain ⟨history, s, run, _, disputes, oracle, pending, admins⟩ := undisputedTrade_outcome
  refine ⟨history, s, run, oracle, ?_⟩
  refine (proposals_mirrored_iff plainEthers_decodes run (plainFeed_brings s.events)).mpr ⟨?_, ?_, ?_⟩
  · intro proposalId below
    omega
  · intro proposalId below
    obtain rfl : proposalId = 0 := by omega
    exact pending
  · intro proposalId below
    omega

end Plain

end Agroasys.Indexer
