import Agroasys.Escrow.Quorum

namespace Agroasys.Escrow

open Function Agroasys.Foundation

variable {σ Op : Type} {chain : Chain σ Op}

/-- The fields of a trade that its creation fixes. -/
structure SameOrder (before after : Trade) : Prop where
  tradeId : after.tradeId = before.tradeId
  ricardianHash : after.ricardianHash = before.ricardianHash
  buyerAddress : after.buyerAddress = before.buyerAddress
  supplierAddress : after.supplierAddress = before.supplierAddress
  totalAmountLocked : after.totalAmountLocked = before.totalAmountLocked
  logisticsAmount : after.logisticsAmount = before.logisticsAmount
  platformFeesAmount : after.platformFeesAmount = before.platformFeesAmount
  supplierFirstTranche : after.supplierFirstTranche = before.supplierFirstTranche
  supplierSecondTranche : after.supplierSecondTranche = before.supplierSecondTranche
  createdAt : after.createdAt = before.createdAt

theorem SameOrder.refl (trade : Trade) : SameOrder trade trade :=
  ⟨rfl, rfl, rfl, rfl, rfl, rfl, rfl, rfl, rfl, rfl⟩

private theorem Move.sameOrder (move : Move) (now : Nat) (trade : Trade) :
    SameOrder trade (move.advance now trade) :=
  ⟨rfl, rfl, rfl, rfl, rfl, rfl, rfl, rfl, rfl, rfl⟩

theorem Advanced.trades {s next : World σ} (advanced : Advanced s now tradeId move next) :
    next.trades = update s.trades tradeId (move.advance now (s.trades tradeId)) :=
  (congrArg Custody.trades advanced.custody).trans (Custody.perform_trades ..)

private theorem Advanced.inTransitSince {s next : World σ} (advanced : Advanced s now tradeId move next) :
    next.inTransitSince =
      update s.inTransitSince tradeId (move.transitMark now (s.inTransitSince tradeId)) :=
  (congrArg Custody.inTransitSince advanced.custody).trans (Custody.perform_inTransitSince ..)

theorem Advanced.trade {s next : World σ} (advanced : Advanced s now tradeId move next) :
    next.trades tradeId = move.advance now (s.trades tradeId) := by
  rw [advanced.trades, update_self]

/-- What a transaction does to one trade. -/
inductive TradeChange (s : World σ) (action : Action Op) (tradeId : Nat) (next : World σ) : Prop where
  | kept (trade : next.trades tradeId = s.trades tradeId)
      (since : next.inTransitSince tradeId = s.inTransitSince tradeId)
  | opened (fresh : tradeId = s.tradeCounter)
      (opened : s.custody.Opened action.message.timestamp (next.trades tradeId))
      (since : next.inTransitSince tradeId = s.inTransitSince tradeId)
  | moved (msg : Message) (call : Call) (move : Move) (label : action = .escrow msg call)
      (advanced : Advanced s msg.timestamp tradeId move next)
      (entitled : Entitled s msg tradeId next move)

private theorem Transacted.trade_change {s next : World σ} (transacted : Transacted chain s action next)
    (tradeId : Nat) : TradeChange s action tradeId next := by
  cases transacted with
  | foreign => exact .kept rfl rfl
  | called msg call _ _ activity =>
    cases activity with
    | quiet custody =>
      apply TradeChange.kept
      · exact congrFun (congrArg Custody.trades custody) tradeId
      · exact congrFun (congrArg Custody.inTransitSince custody) tradeId
    | created order created =>
      have trades : next.trades = update s.trades s.tradeCounter _ :=
        congrArg Custody.trades created.custody
      have since : next.inTransitSince = s.inTransitSince :=
        congrArg Custody.inTransitSince created.custody
      by_cases same : tradeId = s.tradeCounter
      · apply TradeChange.opened same
        · rw [trades, same, update_self]
          exact created.opened
        · rw [since]
      · apply TradeChange.kept
        · rw [trades, update_of_ne same]
        · rw [since]
    | advanced other move advanced entitled =>
      by_cases same : tradeId = other
      · subst same
        exact .moved msg call move rfl advanced entitled
      · apply TradeChange.kept
        · rw [advanced.trades, update_of_ne same]
        · rw [advanced.inTransitSince, update_of_ne same]
    | withdrawn _ _ withdrawn =>
      apply TradeChange.kept
      · exact congrFun (congrArg Custody.trades withdrawn.custody) tradeId
      · exact congrFun (congrArg Custody.inTransitSince withdrawn.custody) tradeId

/-- The timestamps of a trade agree with its status. -/
structure Trade.Timed (trade : Trade) (since : Nat) : Prop where
  transit : 0 < since ↔ trade.status = .inTransit
  before : trade.status = .locked ∨ trade.status = .inTransit → trade.arrivalTimestamp = 0
  arrived : trade.status = .arrivalConfirmed ∨ trade.status = .frozen → 0 < trade.arrivalTimestamp

private theorem Move.timed (move : Move) (timed : trade.Timed since) (source : trade.status = move.source)
    (genesis : 0 < now) : (move.advance now trade).Timed (move.transitMark now since) := by
  obtain ⟨transit, before, arrived⟩ := timed
  rw [source] at transit before arrived
  cases move with
  | releaseFundsStage1 =>
    constructor
    · simpa [transitMark, target] using genesis
    · intro _
      exact before (.inl rfl)
    · simp [target]
  | confirmArrival =>
    constructor
    · simp [transitMark, target]
    · simp [target]
    · intro _
      exact genesis
  | openDispute =>
    constructor
    · simpa [transitMark, target, Move.source] using transit
    · simp [target]
    · intro _
      exact arrived (.inl rfl)
  | cancelLockedTradeAfterTimeout =>
    constructor
    · simpa [transitMark, target, Move.source] using transit
    · simp [target]
    · simp [target]
  | _ => constructor <;> simp [transitMark, target]

private theorem TradeChange.timed {s next : World σ} (change : TradeChange s action tradeId next)
    (unopened : s.Unopened) (genesis : 0 < action.message.timestamp)
    (timed : (s.trades tradeId).Timed (s.inTransitSince tradeId)) :
    (next.trades tradeId).Timed (next.inTransitSince tradeId) := by
  cases change with
  | kept trade since =>
    rw [trade, since]
    exact timed
  | opened fresh opened since =>
    have unmarked := (unopened tradeId fresh.ge).2
    constructor
    · simp [since, unmarked, opened.status]
    · simp [opened.arrivalTimestamp]
    · simp [opened.status]
  | moved msg call move label advanced =>
    subst label
    rw [advanced.trade, advanced.inTransitSince, update_self]
    exact move.timed timed advanced.source genesis

theorem run_timed (run : (escrowSystem chain).Run history final) (tradeId : Nat) :
    (final.trades tradeId).Timed (final.inTransitSince tradeId) := by
  apply run_invariant run
  · intro config origin deployed
    obtain ⟨_, _, rfl⟩ := deployed.world
    constructor
    · simp [Config.world]
    · intro _
      rfl
    · rintro (status | status) <;> cases status
  · intro s action next established transacted timed
    have genesis : 0 < action.message.timestamp := by
      cases transacted with
      | called _ _ clock => exact established.clock.trans_le clock
      | foreign _ _ _ clock => exact established.clock.trans_le clock
    exact (transacted.trade_change tradeId).timed established.unopened genesis timed

theorem step_trade_change {s next : World σ} (reachable : (escrowSystem chain).Reachable s)
    (step : (escrowSystem chain).step s action next) (tradeId : Nat) :
    TradeChange s action tradeId next := by
  obtain ⟨history, run⟩ := reachable
  exact (step_transacted (run_established run).unopened step).trade_change tradeId

/-- Only a confirmed arrival writes the arrival timestamp, which was zero before. -/
theorem step_arrival {s next : World σ} (reachable : (escrowSystem chain).Reachable s)
    (step : (escrowSystem chain).step s action next) (tradeId : Nat) :
    (next.trades tradeId).arrivalTimestamp = (s.trades tradeId).arrivalTimestamp ∨
      (s.trades tradeId).arrivalTimestamp = 0 ∧ (next.trades tradeId).arrivalTimestamp ≠ 0 := by
  have established : Established s := by
    obtain ⟨history, run⟩ := reachable
    exact run_established run
  have timed : (s.trades tradeId).Timed (s.inTransitSince tradeId) := by
    obtain ⟨history, run⟩ := reachable
    exact run_timed run tradeId
  obtain ⟨clock, _⟩ := step_cases step
  have genesis := established.clock
  cases step_trade_change reachable step tradeId with
  | kept trade =>
    left
    rw [trade]
  | opened fresh opened =>
    left
    rw [opened.arrivalTimestamp, (established.unopened tradeId fresh.ge).1]
    rfl
  | moved msg call move label advanced =>
    rw [advanced.trade]
    have source := advanced.source
    cases move with
    | confirmArrival =>
      right
      subst label
      refine ⟨timed.before (.inr source), ?_⟩
      exact (genesis.trans_le clock).ne'
    | _ => exact .inl rfl

/-- The step writes the arrival timestamp of a trade. -/
def WritesArrival (tradeId : Nat) (entry : Transition (World σ) (Action Op)) : Prop :=
  (entry.after.trades tradeId).arrivalTimestamp ≠ (entry.before.trades tradeId).arrivalTimestamp

def arrived (tradeId : Nat) (s : World σ) : Bool :=
  decide ((s.trades tradeId).arrivalTimestamp ≠ 0)

private theorem arrived_latched {s next : World σ} (reachable : (escrowSystem chain).Reachable s)
    (step : (escrowSystem chain).step s action next) (up : arrived tradeId s = true) :
    arrived tradeId next = true := by
  simp only [arrived, decide_eq_true_eq] at up ⊢
  rcases step_arrival reachable step tradeId with same | ⟨unset, _⟩
  · rwa [same]
  · exact absurd unset up

private theorem WritesArrival.raises {entry : Transition (World σ) (Action Op)}
    (reachable : (escrowSystem chain).Reachable entry.before)
    (step : (escrowSystem chain).step entry.before entry.label entry.after)
    (writes : WritesArrival tradeId entry) : Raises (arrived tradeId) entry := by
  rcases step_arrival reachable step tradeId with same | ⟨unset, set⟩
  · exact absurd same writes
  · exact ⟨by simp [arrived, unset], by simp [arrived, set]⟩

private theorem arrival_written_once (run : (escrowSystem chain).Run (later ++ entry :: earlier) final)
    (writes : WritesArrival tradeId entry) (member : other ∈ later ∨ other ∈ earlier) :
    ¬ WritesArrival tradeId other := by
  intro again
  have among : other ∈ later ++ entry :: earlier := by
    rcases member with member | member
    · exact List.mem_append_left _ member
    · exact List.mem_append_right _ (List.mem_cons_of_mem _ member)
  obtain ⟨_, _, _, before, step, _⟩ := run.cut among
  obtain ⟨first, taken, _⟩ := run.split
  exact run.raises_once (fun _ _ _ reachable step => arrived_latched reachable step)
    (writes.raises ⟨_, first⟩ taken) member (again.raises ⟨_, before⟩ step)

/-- Once written the arrival timestamp stays. -/
theorem arrival_kept {s : World σ} (reachable : (escrowSystem chain).Reachable s)
    (path : Path (escrowSystem chain) s history final) (set : (s.trades tradeId).arrivalTimestamp ≠ 0) :
    (final.trades tradeId).arrivalTimestamp = (s.trades tradeId).arrivalTimestamp := by
  have kept := reachable.invariant (P := fun state => (state.trades tradeId).arrivalTimestamp =
    (s.trades tradeId).arrivalTimestamp) path rfl fun state action next reached step same => by
      rcases step_arrival reached step tradeId with kept | ⟨unset, _⟩
      · exact kept.trans same
      · exact absurd (same.symm.trans unset) set
  exact kept.2

/-- The admins who approved a dispute proposal are admins still. -/
theorem run_dispute_approvers (run : (escrowSystem chain).Run history s) :
    ∀ voter ∈ s.dispute.approvers proposalId, s.isAdmin voter = true := by
  apply run.history_invariant (P := fun _ s => ∀ voter ∈ s.dispute.approvers proposalId,
    s.isAdmin voter = true)
  · rintro origin ⟨config, deployed⟩ voter member
    rw [(deployed_docket deployed).1] at member
    simp at member
  · intro earlier s action next run step ih voter member
    have established := run_established run
    have progress : ProposalBook.Progress (s.disputeRules s.toParameters) action.message.timestamp
        action.message.sender s.dispute next.dispute := (disputes chain).progress ⟨earlier, run⟩ step
    have admin : s.isAdmin voter = true := by
      cases held : s.dispute.hasApproved proposalId voter with
      | true => exact ih voter (by simpa using held)
      | false =>
        obtain ⟨caller, eligible, _⟩ := progress.approved proposalId voter held (by simpa using member)
        exact caller ▸ eligible
    rcases step_ruled ⟨earlier, run⟩ step with same | ⟨call, _, ruling⟩
    · rwa [same]
    · obtain ⟨admins, _, grown, _⟩ := ruling.admins established.admins established.distinct
      exact (admins voter).mpr (grown ((established.admins voter).mp admin))

/-- A trade left its status by one of its moves. -/
structure StatusMove (tradeId : Nat) (entry : Transition (World σ) (Action Op)) (msg : Message)
    (move : Move) : Prop where
  label : ∃ call, entry.label = .escrow msg call
  unpaused : entry.before.paused = false
  source : (entry.before.trades tradeId).status = move.source
  target : (entry.after.trades tradeId).status = move.target
  trade : entry.after.trades tradeId = move.advance msg.timestamp (entry.before.trades tradeId)
  entitled : Entitled entry.before msg tradeId entry.after move
  quorum : ∀ decision, move = .executeDispute decision → ∃ proposalId,
    Decided entry.before msg.timestamp proposalId tradeId decision entry.after ∧
    entry.before.requiredApprovals ≤ (entry.after.dispute.approvers proposalId).card ∧
    ∀ voter ∈ entry.after.dispute.approvers proposalId, entry.after.isAdmin voter = true

theorem step_status (run : (escrowSystem chain).Run earlier s)
    (step : (escrowSystem chain).step s action next) (tradeId : Nat) :
    (next.trades tradeId).status = (s.trades tradeId).status ∨
      ∃ msg move, StatusMove tradeId ⟨s, action, next⟩ msg move := by
  have reachable : (escrowSystem chain).Reachable s := ⟨earlier, run⟩
  cases step_trade_change reachable step tradeId with
  | kept trade =>
    left
    rw [trade]
  | opened fresh opened =>
    left
    rw [opened.status, ((run_established run).unopened tradeId fresh.ge).1]
    rfl
  | moved msg call move label advanced entitled =>
    right
    refine ⟨msg, move, ⟨call, label⟩, advanced.unpaused, advanced.source, ?_, advanced.trade, entitled,
      ?_⟩
    · rw [advanced.trade]
      rfl
    · rintro decision rfl
      obtain ⟨_, proposalId, decided⟩ := entitled
      obtain ⟨after, run⟩ := reachable.step step
      have valid : next.dispute.Tallied := (disputes chain).tallied ⟨after, run⟩
      refine ⟨proposalId, decided, ?_, run_dispute_approvers run⟩
      rw [← valid.tally]
      exact decided.quorum

theorem step_sameOrder (reachable : (escrowSystem chain).Reachable s)
    (step : (escrowSystem chain).step s action next) (known : tradeId < s.tradeCounter) :
    SameOrder (s.trades tradeId) (next.trades tradeId) := by
  cases step_trade_change reachable step tradeId with
  | kept trade =>
    rw [trade]
    exact .refl _
  | opened fresh => exact absurd known fresh.not_lt
  | moved msg call move label advanced =>
    rw [advanced.trade]
    exact move.sameOrder _ _

/-- The time guards of `openDispute` and `finalizeAfterDisputeWindow` exclude each
other and leave no gap. -/
theorem dispute_guards (trade : Trade) (time : Nat) :
    Xor (trade.disputeOpen time) (trade.disputeElapsed time) := by
  unfold Trade.disputeOpen Trade.disputeElapsed
  rcases Nat.lt_or_ge (trade.arrivalTimestamp + disputeWindow) time with after | before
  · exact .inr ⟨after, Nat.not_le.mpr after⟩
  · exact .inl ⟨before, Nat.not_lt.mpr before⟩

/-- The life of a trade: it leaves a status only by one of its moves, made by who
is entitled to it, in time and while the protocol is not paused; what its
creation fixed stays; and its timestamps tell its status. -/
theorem trade_lifecycle (run : (escrowSystem chain).Run history final) (tradeId : Nat) :
    (∀ entry ∈ history, (entry.after.trades tradeId).status = (entry.before.trades tradeId).status ∨
      ∃ msg move, StatusMove tradeId entry msg move) ∧
    (∀ entry ∈ history, tradeId < entry.before.tradeCounter →
      SameOrder (entry.before.trades tradeId) (entry.after.trades tradeId)) ∧
    (∀ later entry earlier, history = later ++ entry :: earlier → WritesArrival tradeId entry →
      ∀ other, other ∈ later ∨ other ∈ earlier → ¬ WritesArrival tradeId other) ∧
    (∀ s, Visited history final s → (s.trades tradeId).status = .arrivalConfirmed →
      (final.trades tradeId).arrivalTimestamp = (s.trades tradeId).arrivalTimestamp ∧
        0 < (s.trades tradeId).arrivalTimestamp) ∧
    (0 < final.inTransitSince tradeId ↔ (final.trades tradeId).status = .inTransit) ∧
    ((final.trades tradeId).status = .arrivalConfirmed → ∀ time,
      Xor ((final.trades tradeId).disputeOpen time) ((final.trades tradeId).disputeElapsed time)) := by
  refine ⟨?_, ?_, ?_, ?_, (run_timed run tradeId).transit, fun _ => dispute_guards _⟩
  · intro entry member
    obtain ⟨_, _, _, before, step, _⟩ := run.cut member
    exact step_status before step tradeId
  · intro entry member known
    obtain ⟨_, _, _, before, step, _⟩ := run.cut member
    exact step_sameOrder ⟨_, before⟩ step known
  · rintro later entry earlier rfl writes other member
    exact arrival_written_once run writes member
  · intro s visited status
    obtain ⟨reachable, later, path⟩ := run.visited visited
    have set : 0 < (s.trades tradeId).arrivalTimestamp := by
      obtain ⟨earlier, run⟩ := reachable
      exact (run_timed run tradeId).arrived (.inl status)
    exact ⟨arrival_kept reachable path set.ne', set⟩

open Mock in
theorem arrivedTrade_guards : ∃ s, scenario (config [admin1, admin2] 1)
    [call buyer 1 (.createTrade order), call oracle 2 (.releaseFundsStage1 0),
      call oracle 3 (.confirmArrival 0)] = some s ∧ s.inTransitSince 0 = 0 ∧
      ∀ time, Xor ((s.trades 0).disputeOpen time) ((s.trades 0).disputeElapsed time) := by
  have outcome : (scenario (config [admin1, admin2] 1) [call buyer 1 (.createTrade order),
      call oracle 2 (.releaseFundsStage1 0), call oracle 3 (.confirmArrival 0)]).map
        (fun s => (s.trades 0).status) = some .arrivalConfirmed := by
    decide +kernel
  obtain ⟨s, reached, status⟩ := Option.map_eq_some_iff.mp outcome
  obtain ⟨history, run⟩ := scenario_run reached
  obtain ⟨_, _, _, _, transit, guards⟩ := trade_lifecycle run 0
  refine ⟨s, reached, ?_, guards status⟩
  by_contra marked
  have moving := transit.mp (Nat.pos_of_ne_zero marked)
  rw [status] at moving
  cases moving

end Agroasys.Escrow
