import Agroasys.Oracle.Service
import Agroasys.Escrow.Lifecycle

namespace Agroasys.Oracle

open Agroasys.Foundation Agroasys.Escrow

variable {σ Op : Type} {chain : Chain σ Op}

/-- An escrow with the transactions that led to its state. -/
structure Onchain (chain : Chain σ Op) where
  history : EscrowHistory σ Op
  world : World σ
  run : (escrowSystem chain).Run history world

/-- A transaction of the escrow or of its token. -/
def Onchain.Executes (before : Onchain chain) (action : Action Op) (after : Onchain chain) : Prop :=
  after.history = ⟨before.world, action, after.world⟩ :: before.history

def Onchain.Changed (onchain : Onchain chain) (tradeId : Nat) (source target : TradeStatus) : Prop :=
  ∃ entry ∈ onchain.history, (entry.before.trades tradeId).status = source ∧
    (entry.after.trades tradeId).status = target

/-- `getTrade` of the SDK. -/
def viewTrade (trade : Escrow.Trade) : Trade where
  tradeId := trade.tradeId
  buyer := trade.buyerAddress
  status := trade.status
  arrivalTimestamp :=
    if 0 < trade.arrivalTimestamp then some (trade.arrivalTimestamp * 1000) else none

def TriggerType.call (tradeId : Nat) : TriggerType → Escrow.Call
  | .releaseStage1 => .releaseFundsStage1 tradeId
  | .confirmArrival => .confirmArrival tradeId
  | .finalizeTrade => .finalizeAfterDisputeWindow tradeId

/-- The escrow behind a node. `tradeIdOf` reads a trade id as the contract's number;
other parties' transactions come at any time, and a transaction whose receipt did not
arrive may have been mined. -/
def escrowOutside (chain : Chain σ Op) (tradeIdOf : String → Option Nat) : Outside (Onchain chain) where
  getTrade onchain tradeId answer := ∀ trade, answer = .ok trade → ∃ number, tradeIdOf tradeId = some number ∧
    trade = viewTrade (onchain.world.trades number)
  sendTransaction before triggerType tradeId answer after :=
    (∃ number msg, tradeIdOf tradeId = some number ∧
        before.Executes (.escrow msg (triggerType.call number)) after) ∨
      (after = before ∧ ∃ error, answer = .error error)
  findConfirmationEvent _ _ _ _ := True
  moves before after := ∃ action, before.Executes action after

def TriggerType.target : TriggerType → TradeStatus
  | .releaseStage1 => .inTransit
  | .confirmArrival => .arrivalConfirmed
  | .finalizeTrade => .closed

/-- The statuses, besides the one the action starts from, of a trade that has neither
taken it nor been closed. -/
def TriggerType.unready : TriggerType → List TradeStatus
  | .releaseStage1 => []
  | .confirmArrival => [.locked]
  | .finalizeTrade => [.locked, .inTransit, .frozen]

/-- The statuses from which a trade may be closed without the action: by the lock
timeout, by the refund of goods in transit, by a dispute. -/
def TriggerType.bypasses : TriggerType → List TradeStatus
  | .releaseStage1 => [.locked]
  | .confirmArrival => [.locked, .inTransit]
  | .finalizeTrade => [.locked, .inTransit, .frozen]

def TriggerType.past (triggerType : TriggerType) (status : TradeStatus) : Bool :=
  status ≠ triggerType.source && !triggerType.unready.contains status

/-- A move that takes a trade past the action is the action itself or goes around it. -/
theorem past_move {triggerType : TriggerType} {move : Escrow.Move}
    (before : triggerType.past move.source = false) (after : triggerType.past move.target = true) :
    (move.source = triggerType.source ∧ move.target = triggerType.target) ∨
      (move.source ∈ triggerType.bypasses ∧ move.target = .closed) := by
  cases triggerType <;> cases move <;> first
    | exact .inl ⟨rfl, rfl⟩
    | exact .inr ⟨List.mem_of_elem_eq_true rfl, rfl⟩
    | exact (Bool.false_ne_true before.symm).elim
    | exact (Bool.false_ne_true after).elim

/-- A trade that is past the action took it or was closed around it. -/
theorem Onchain.past_changed (onchain : Onchain chain) {triggerType : TriggerType}
    (past : triggerType.past (onchain.world.trades tradeId).status = true) :
    onchain.Changed tradeId triggerType.source triggerType.target ∨
      ∃ source ∈ triggerType.bypasses, onchain.Changed tradeId source .closed := by
  obtain ⟨origin, ⟨config, deployed⟩, path⟩ := onchain.run
  have down : triggerType.past (origin.trades tradeId).status = false := by
    obtain ⟨_, _, rfl⟩ := deployed.world
    cases triggerType <;> rfl
  obtain ⟨entry, member, raised⟩ : ∃ entry ∈ onchain.history,
      Raises (fun s => triggerType.past (s.trades tradeId).status) entry := path.raised down past
  have before : triggerType.past (entry.before.trades tradeId).status = false := raised.1
  have after : triggerType.past (entry.after.trades tradeId).status = true := raised.2
  obtain ⟨_, earlier, _, run, step, _⟩ := onchain.run.cut member
  rcases step_status run step tradeId with same | ⟨msg, move, moved⟩
  · rw [same, before] at after
    cases after
  · have source : (entry.before.trades tradeId).status = move.source := moved.source
    have target : (entry.after.trades tradeId).status = move.target := moved.target
    rw [source] at before
    rw [target] at after
    rcases past_move before after with ⟨acts, reaches⟩ | ⟨around, closes⟩
    · exact .inl ⟨entry, member, source.trans acts, target.trans reaches⟩
    · exact .inr ⟨_, around, entry, member, source, target.trans closes⟩

theorem Onchain.Executes.keeps {before after : Onchain chain} (executes : before.Executes action after) :
    before.history ⊆ after.history := by
  rw [executes]
  exact List.subset_cons_self _ _

theorem Onchain.Changed.later {before after : Onchain chain} (changed : before.Changed tradeId source target)
    (kept : before.history ⊆ after.history) : after.Changed tradeId source target := by
  obtain ⟨entry, member, statuses⟩ := changed
  exact ⟨entry, kept member, statuses⟩

theorem escrow_keeps {before after : Onchain chain}
    (served : (escrowOutside chain tradeIdOf).serves before event after) : before.history ⊆ after.history := by
  obtain ⟨effect, answer⟩ := event
  cases effect
  case sendTransaction key triggerType tradeId =>
    rcases served with ⟨number, msg, _, executes⟩ | ⟨same, _⟩
    · exact executes.keeps
    · rw [same]
      exact List.Subset.refl _
  case getTrade tradeId => exact served.2 ▸ List.Subset.refl _
  case findConfirmationEvent txHash tradeId => exact served.2 ▸ List.Subset.refl _
  all_goals
    have same : after = before := served
    rw [same]
    exact List.Subset.refl _

/-- A trade that is locked has never been anything else. -/
theorem Onchain.unmoved (onchain : Onchain chain) (locked : (onchain.world.trades tradeId).status = .locked) :
    ∀ entry ∈ onchain.history, (entry.after.trades tradeId).status = .locked := by
  intro entry member
  obtain ⟨_, earlier, _, run, step, path⟩ := onchain.run.cut member
  by_contra moved
  have reachable : (escrowSystem chain).Reachable entry.after := System.Reachable.step ⟨earlier, run⟩ step
  have never := reachable.invariant (P := fun s => (s.trades tradeId).status ≠ .locked) path moved
  refine (never ?_).2 locked
  intro s action next reached taken unlocked
  obtain ⟨before, run⟩ := reached
  rcases step_status run taken tradeId with same | ⟨msg, move, moved⟩
  · rw [same]
    exact unlocked
  · have target : (next.trades tradeId).status = move.target := moved.target
    rw [target]
    intro back
    cases move <;> cases back

end Agroasys.Oracle
