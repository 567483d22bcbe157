import Agroasys.Escrow.SignedOrders
import Agroasys.Oracle.Evidence

/-! The oracle's checks of a trade before a transaction against the guards of the
transaction itself. -/

namespace Agroasys.Oracle

open Function Agroasys.Foundation Agroasys.Escrow

variable {σ Op : Type} {chain : Chain σ Op}

/-- `validateTradeId`, `getTrade` and `validateTradeState` in turn, against a state of the
escrow, in which the trade id denotes this number, and at a time in milliseconds. -/
def preCheck (s : World σ) (now : Nat) (tradeId : String) (number : Nat) (triggerType : TriggerType) :
    Except Failure Unit := do
  validateTradeId tradeId
  let trade ← checkTrade tradeId (viewTrade (s.trades number))
  validateTradeState now trade triggerType

/-- The guards of an action's transaction on the status and the dispute window. -/
structure Guarded (triggerType : TriggerType) (trade : Escrow.Trade) (time : Nat) : Prop where
  status : trade.status = triggerType.source
  window : triggerType = .finalizeTrade → 0 < trade.arrivalTimestamp ∧ trade.disputeElapsed time

section Contract

/-- The reverts of these guards. -/
def guardReverts : List Revert :=
  [.require "status must be LOCKED", .require "status must be IN_TRANSIT", .require "must be ARRIVAL_CONFIRMED",
    .require "arrival not set", .require "window not elapsed"]

/-- A message that the other guards let through. -/
structure Admitted (triggerType : TriggerType) (msg : Message) (s : World σ) : Prop where
  unpaused : s.paused = false
  oracle : triggerType ≠ .finalizeTrade → msg.sender = s.oracleAddress ∧ s.oracleActive = true

private theorem accrueClaimable_spares (tradeId : Nat) (recipient : Address) (amount : Nat) (claimType : ClaimType)
    (s : World σ) : Spares guardReverts (accrueClaimable tradeId recipient amount claimType s) := by
  intro revert listed failed
  unfold accrueClaimable at failed
  split at failed
  · cases failed
  · simp only [bind_eq_error, checkedAdd_eq_error, pure_ne_error, and_false, exists_false, or_false] at failed
    rcases failed with ⟨_, rfl⟩ | ⟨_, _, _, rfl⟩
    · exact absurd listed (by decide)
    · exact absurd listed (by decide)

private theorem releaseFundsStage1_guards {s : World σ} (admitted : Admitted .releaseStage1 msg s)
    (known : tradeId < s.tradeCounter) : Spares guardReverts (releaseFundsStage1 msg tradeId s) ↔
      Guarded .releaseStage1 (s.trades tradeId) msg.timestamp := by
  obtain ⟨sender, active⟩ := admitted.oracle nofun
  unfold releaseFundsStage1
  rw [onlyOracle, spares_passed sender, onlyOracleActive, spares_passed active, whenNotPaused,
    spares_passed admitted.unpaused, spares_passed known, spares_require (by decide)]
  constructor
  · intro passed
    exact ⟨passed.1, nofun⟩
  · intro guarded
    refine ⟨guarded.status, ?_⟩
    apply Spares.bind (accrueClaimable_spares _ _ _ _ _)
    intro s
    apply Spares.bind (accrueClaimable_spares _ _ _ _ _)
    intro s
    apply Spares.bind (accrueClaimable_spares _ _ _ _ _)
    intro s
    exact spares_pure _

private theorem confirmArrival_guards {s : World σ} (admitted : Admitted .confirmArrival msg s)
    (known : tradeId < s.tradeCounter) : Spares guardReverts (confirmArrival msg tradeId s) ↔
      Guarded .confirmArrival (s.trades tradeId) msg.timestamp := by
  obtain ⟨sender, active⟩ := admitted.oracle nofun
  unfold confirmArrival
  rw [onlyOracle, spares_passed sender, onlyOracleActive, spares_passed active, whenNotPaused,
    spares_passed admitted.unpaused, spares_passed known, spares_require (by decide)]
  constructor
  · intro passed
    exact ⟨passed.1, nofun⟩
  · intro guarded
    exact ⟨guarded.status, spares_pure _⟩

private theorem finalizeAfterDisputeWindow_guards {s : World σ} (admitted : Admitted .finalizeTrade msg s)
    (known : tradeId < s.tradeCounter) : Spares guardReverts (finalizeAfterDisputeWindow msg tradeId s) ↔
      Guarded .finalizeTrade (s.trades tradeId) msg.timestamp := by
  unfold finalizeAfterDisputeWindow
  rw [whenNotPaused, spares_passed admitted.unpaused, spares_passed known, spares_require (by decide),
    spares_require (by decide), spares_require (by decide)]
  constructor
  · intro passed
    obtain ⟨status, arrived, elapsed, _⟩ := passed
    exact ⟨status, fun _ => ⟨arrived, elapsed⟩⟩
  · intro guarded
    obtain ⟨arrived, elapsed⟩ := guarded.window rfl
    refine ⟨guarded.status, arrived, elapsed, ?_⟩
    apply Spares.bind (accrueClaimable_spares _ _ _ _ _)
    intro s
    exact spares_pure _

/-- The transaction of an action meets its guards exactly on such trades. -/
theorem execute_guards {s : World σ} (chain : Chain σ Op) (admitted : Admitted triggerType msg s)
    (known : tradeId < s.tradeCounter) :
    Spares guardReverts (execute chain msg (triggerType.call tradeId) s) ↔
      Guarded triggerType (s.trades tradeId) msg.timestamp := by
  cases triggerType with
  | releaseStage1 => exact releaseFundsStage1_guards admitted known
  | confirmArrival => exact confirmArrival_guards admitted known
  | finalizeTrade => exact finalizeAfterDisputeWindow_guards admitted known

end Contract

section Service

private theorem validateTradeState_eq_ok (seconds : Nat) (trade : Escrow.Trade) (triggerType : TriggerType) :
    validateTradeState (1000 * seconds) (viewTrade trade) triggerType = .ok () ↔
      Guarded triggerType trade seconds := by
  cases triggerType with
  | releaseStage1 =>
    constructor
    · intro passed
      exact ⟨validateStatus_eq_ok.mp passed, nofun⟩
    · intro guarded
      exact validateStatus_eq_ok.mpr guarded.status
  | confirmArrival =>
    constructor
    · intro passed
      exact ⟨validateStatus_eq_ok.mp passed, nofun⟩
    · intro guarded
      exact validateStatus_eq_ok.mpr guarded.status
  | finalizeTrade =>
    change validateFinalizeTrade (1000 * seconds) (viewTrade trade) = .ok () ↔ _
    unfold validateFinalizeTrade
    by_cases status : trade.status = .arrivalConfirmed
    · have confirmed : validateStatus .finalizeTrade (viewTrade trade) = .ok () := validateStatus_eq_ok.mpr status
      rw [confirmed]
      by_cases arrived : 0 < trade.arrivalTimestamp
      · have dated : (viewTrade trade).arrivalTimestamp = some (trade.arrivalTimestamp * 1000) := if_pos arrived
        simp only [dated]
        by_cases elapsed : trade.disputeElapsed seconds
        · have passed : ¬ 1000 * seconds ≤ trade.arrivalTimestamp * 1000 + disputeWindowMs := by
            unfold Trade.disputeElapsed disputeWindow at elapsed
            unfold disputeWindowMs
            omega
          rw [if_neg passed]
          exact ⟨fun _ => ⟨status, fun _ => ⟨arrived, elapsed⟩⟩, fun _ => rfl⟩
        · have early : 1000 * seconds ≤ trade.arrivalTimestamp * 1000 + disputeWindowMs := by
            unfold Trade.disputeElapsed disputeWindow at elapsed
            unfold disputeWindowMs
            omega
          rw [if_pos early]
          exact ⟨nofun, fun guarded => absurd (guarded.window rfl).2 elapsed⟩
      · have undated : (viewTrade trade).arrivalTimestamp = none := if_neg arrived
        simp only [undated]
        exact ⟨nofun, fun guarded => absurd (guarded.window rfl).1 arrived⟩
    · have refused : validateStatus .finalizeTrade (viewTrade trade) ≠ .ok () := mt validateStatus_eq_ok.mp status
      cases checked : validateStatus .finalizeTrade (viewTrade trade) with
      | ok _ => exact absurd checked refused
      | error failure => exact ⟨nofun, fun guarded => absurd guarded.status status⟩

/-- What the checks come to on a trade that the escrow has. -/
theorem preCheck_eq_ok {s : World σ} (denoted : decimal tradeId = some number)
    (numbered : (s.trades number).tradeId = number) (bought : (s.trades number).buyerAddress ≠ .zero) :
    preCheck s (1000 * seconds) tradeId number triggerType = .ok () ↔
      number ≠ 0 ∧ Guarded triggerType (s.trades number) seconds := by
  have formed : validateTradeId tradeId = .ok () := if_pos (Option.ite_none_right_eq_some.mp denoted).1
  unfold preCheck
  rw [formed]
  by_cases first : number = 0
  · have missing : checkTrade tradeId (viewTrade (s.trades number)) =
        .error (.validation s!"Trade {tradeId} does not exist on-chain") := if_pos (.inl (numbered.trans first))
    rw [missing]
    constructor
    · intro passed
      cases passed
    · exact fun both => absurd first both.1
  · have found : checkTrade tradeId (viewTrade (s.trades number)) = .ok (viewTrade (s.trades number)) := by
      apply if_neg
      intro missing
      rcases missing with unnumbered | unbought
      · exact first (numbered.symm.trans unnumbered)
      · exact bought unbought
    rw [found, and_iff_right first]
    exact validateTradeState_eq_ok seconds _ triggerType

end Service

section Trades

/-- A trade of the escrow carries its number and a buyer. -/
def Numbered (s : World σ) : Prop :=
  ∀ tradeId < s.tradeCounter, (s.trades tradeId).tradeId = tradeId ∧ (s.trades tradeId).buyerAddress ≠ .zero

private theorem run_numbered (honest : ∀ digest signature, chain.recover digest signature ≠ some .zero)
    (run : (escrowSystem chain).Run history final) : Numbered final := by
  apply run_invariant run
  · intro config origin deployed tradeId known
    obtain ⟨_, _, rfl⟩ := deployed.world
    exact absurd known (Nat.not_lt_zero _)
  · intro s action next established transacted numbered
    cases transacted with
    | foreign => exact numbered
    | called msg call clock now activity =>
      cases activity with
      | quiet custody =>
        have trades : next.trades = s.trades := congrArg Custody.trades custody
        have counter : next.tradeCounter = s.tradeCounter := congrArg Custody.tradeCounter custody
        unfold Numbered
        rw [trades, counter]
        exact numbered
      | created order created =>
        have trades : next.trades = update s.trades s.tradeCounter _ := congrArg Custody.trades created.custody
        have counter : next.tradeCounter = s.tradeCounter + 1 := congrArg Custody.tradeCounter created.custody
        intro tradeId known
        rw [trades]
        by_cases fresh : tradeId = s.tradeCounter
        · subst fresh
          rw [update_self]
          refine ⟨rfl, fun zero => ?_⟩
          have buyer : msg.sender = .zero := zero
          exact honest _ _ (buyer ▸ created.signed)
        · rw [update_of_ne fresh]
          exact numbered tradeId (by omega)
      | advanced other move advanced =>
        have counter : next.tradeCounter = s.tradeCounter :=
          (congrArg Custody.tradeCounter advanced.custody).trans (Custody.perform_tradeCounter ..)
        intro tradeId known
        rw [advanced.trades]
        rw [counter] at known
        by_cases same : tradeId = other
        · subst same
          rw [update_self]
          exact numbered tradeId known
        · rw [update_of_ne same]
          exact numbered tradeId known
      | withdrawn _ _ withdrawn =>
        have trades : next.trades = s.trades := congrArg Custody.trades withdrawn.custody
        have counter : next.tradeCounter = s.tradeCounter := congrArg Custody.tradeCounter withdrawn.custody
        unfold Numbered
        rw [trades, counter]
        exact numbered

end Trades

/-- The oracle's checks agree with the transaction's guards exactly if the trade is not
the first one or the guards refuse it too. -/
theorem preCheck_agrees (honest : ∀ digest signature, chain.recover digest signature ≠ some .zero) {s : World σ}
    (reachable : (escrowSystem chain).Reachable s) (denoted : decimal tradeId = some number)
    (known : number < s.tradeCounter) :
    (∀ (triggerType : TriggerType) seconds,
      ((preCheck s (1000 * seconds) tradeId number triggerType = .ok () ↔
        Guarded triggerType (s.trades number) seconds) ↔
          number ≠ 0 ∨ ¬ Guarded triggerType (s.trades number) seconds)) ∧
    ∀ (triggerType : TriggerType) msg, Admitted triggerType msg s →
      (Spares guardReverts (execute chain msg (triggerType.call number) s) ↔
        Guarded triggerType (s.trades number) msg.timestamp) := by
  constructor
  · intro triggerType seconds
    obtain ⟨history, run⟩ := reachable
    obtain ⟨numbered, bought⟩ := run_numbered honest run _ known
    rw [preCheck_eq_ok denoted numbered bought]
    by_cases first : number = 0
    · simp [first]
    · simp [first]
  · intro triggerType msg admitted
    exact execute_guards chain admitted known

section Examples

open Mock

private theorem signingChain_honest (digest : Bytes32) (signature : Bytes) :
    signingChain.recover digest signature ≠ some .zero := by
  intro recovered
  obtain ⟨_, zero⟩ := Option.ite_none_right_eq_some.mp recovered
  exact absurd zero (by decide)

/-- Two trades of one buyer. -/
def twoTrades : Option (World MockUSDC) :=
  ((config [admin1, admin2] 1).deploy usdc 1).toOption.bind
    (replay signingChain [call buyer 1 (.createTrade order),
      call buyer 1 (.createTrade { order with buyerNonce := 1 })])

private theorem twoTrades_reachable (reached : twoTrades = some s) : (escrowSystem signingChain).Reachable s := by
  obtain ⟨origin, deployed, replayed⟩ := Option.bind_eq_some_iff.mp reached
  obtain ⟨history, path⟩ := replay_path replayed
  refine ⟨history, origin, ⟨config [admin1, admin2] 1, usdc, 1, Nat.one_pos, ?_⟩, path⟩
  cases deploys : (config [admin1, admin2] 1).deploy usdc 1 with
  | ok world =>
    rw [deploys] at deployed
    exact congrArg Except.ok (Option.some.inj deployed)
  | error error =>
    rw [deploys] at deployed
    cases deployed

theorem secondTrade_agrees : ∃ s, (escrowSystem signingChain).Reachable s ∧
    preCheck s 2000 "1" 1 .releaseStage1 = .ok () ∧ Guarded .releaseStage1 (s.trades 1) 2 := by
  have outcome : twoTrades.map (fun s => (s.tradeCounter, (s.trades 1).status)) = some (2, .locked) := by
    decide +kernel
  obtain ⟨s, reached, facts⟩ := Option.map_eq_some_iff.mp outcome
  obtain ⟨counter, locked⟩ := Prod.mk.inj facts
  have reachable := twoTrades_reachable reached
  have denoted : decimal "1" = some 1 := by decide +kernel
  have known : 1 < s.tradeCounter := by omega
  have guarded : Guarded .releaseStage1 (s.trades 1) 2 := ⟨locked, nofun⟩
  obtain ⟨agrees, _⟩ := preCheck_agrees signingChain_honest reachable denoted known
  have agree := (agrees .releaseStage1 2).mpr (.inl (by decide))
  exact ⟨s, reachable, agree.mpr guarded, guarded⟩

/-- The escrow would release the first trade, which the oracle takes for a missing one. -/
theorem firstTrade_missed : ∃ s, (escrowSystem signingChain).Reachable s ∧ decimal "0" = some 0 ∧
    0 < s.tradeCounter ∧ Guarded .releaseStage1 (s.trades 0) 2 ∧
    preCheck s 2000 "0" 0 .releaseStage1 = .error (.validation "Trade 0 does not exist on-chain") := by
  have outcome : twoTrades.map (fun s => (s.tradeCounter, (s.trades 0).status, (s.trades 0).tradeId)) =
      some (2, .locked, 0) := by decide +kernel
  obtain ⟨s, reached, facts⟩ := Option.map_eq_some_iff.mp outcome
  simp only [Prod.mk.injEq] at facts
  obtain ⟨counter, locked, first⟩ := facts
  refine ⟨s, twoTrades_reachable reached, by decide +kernel, by omega, ⟨locked, nofun⟩, ?_⟩
  have missing : checkTrade "0" (viewTrade (s.trades 0)) = .error (.validation "Trade 0 does not exist on-chain") :=
    if_pos (.inl first)
  unfold preCheck
  rw [missing]
  rfl

end Examples

end Agroasys.Oracle
