import Agroasys.Escrow.MockUSDC

/-! Two switches, apart from each other: the global pause freezes trades and
disputes and lets no claim grow, the claims pause stops the only two ways in
which a claim shrinks. -/

namespace Agroasys.Escrow

open Function Agroasys.Foundation

variable {σ Op : Type} {chain : Chain σ Op}

/-- What the global pause keeps still. -/
structure Frozen (s next : World σ) : Prop where
  trades : next.trades = s.trades
  tradeCounter : next.tradeCounter = s.tradeCounter
  nonces : next.nonces = s.nonces
  inTransitSince : next.inTransitSince = s.inTransitSince
  undisputed : Undisputed s next
  claims : ∀ account, next.claimableUsdc account ≤ s.claimableUsdc account
  total : next.totalClaimableUsdc ≤ s.totalClaimableUsdc

/-- One entry was emptied and paid out in full, and no other was touched. -/
structure Discharged (chain : Chain σ Op) (s : World σ) (account receiver : Address)
    (next : World σ) : Prop where
  unpaused : s.claimsPaused = false
  positive : 0 < s.claimableUsdc account
  emptied : next.claimableUsdc account = 0
  others : ∀ other, other ≠ account → next.claimableUsdc other = s.claimableUsdc other
  paid : chain.token.transfer s.usdc chain.self receiver (s.claimableUsdc account) = .ok next.usdc

private theorem Withdrawn.claimable {s next : World σ} (withdrawn : Withdrawn chain s account receiver next) :
    next.claimableUsdc = update s.claimableUsdc account 0 :=
  congrArg Custody.claimable withdrawn.custody

private theorem Withdrawn.discharged {s next : World σ} (withdrawn : Withdrawn chain s account receiver next) :
    Discharged chain s account receiver next where
  unpaused := withdrawn.unpaused
  positive := withdrawn.positive
  emptied := by rw [withdrawn.claimable, update_self]
  others other different := by rw [withdrawn.claimable, update_of_ne different]
  paid := withdrawn.paid

private theorem Withdrawn.frozen {s next : World σ} (withdrawn : Withdrawn chain s account receiver next)
    (undisputed : Undisputed s next) : Frozen s next where
  trades := congrArg Custody.trades withdrawn.custody
  tradeCounter := congrArg Custody.tradeCounter withdrawn.custody
  nonces := withdrawn.nonces
  inTransitSince := congrArg Custody.inTransitSince withdrawn.custody
  undisputed := undisputed
  claims other := by
    rw [withdrawn.claimable]
    by_cases same : other = account
    · simp [same]
    · simp [same]
  total := by
    have owed : next.totalClaimableUsdc = s.totalClaimableUsdc - s.claimableUsdc account :=
      congrArg Custody.owed withdrawn.custody
    omega

private theorem Governed.frozen {s next : World σ} (governed : Governed msg call s next) : Frozen s next := by
  have kept := governed.settlement
  constructor
  · exact congrArg Settlement.trades kept
  · exact congrArg Settlement.tradeCounter kept
  · exact congrArg Settlement.nonces kept
  · exact congrArg Settlement.inTransitSince kept
  · exact ⟨congrArg Settlement.dispute kept, congrArg Settlement.tradeHasActiveDisputeProposal kept,
      congrArg Settlement.tradeActiveDisputeProposalId kept⟩
  · intro account
    rw [show next.claimableUsdc = s.claimableUsdc from congrArg Settlement.claimableUsdc kept]
  · rw [show next.totalClaimableUsdc = s.totalClaimableUsdc from
      congrArg Settlement.totalClaimableUsdc kept]

/-- A call on trades, disputes or claims that succeeds during a pause is one of
the two payouts. -/
theorem Settling.frozen {s next : World σ} {call : Call} (settling : Settling chain msg s call next)
    (paused : s.paused = true) : Frozen s next := by
  have stopped : ¬ s.paused = false := by simp [paused]
  cases settling with
  | created order created => exact absurd created.unpaused stopped
  | paid _ withdrawn undisputed => exact withdrawn.frozen undisputed
  | moved _ _ advanced => exact absurd advanced.unpaused stopped
  | decided _ _ unpaused => exact absurd unpaused stopped

private theorem Custody.le_creditAll (c : Custody) (tradeId : Nat) (payouts : List Payout) (account : Address) :
    c.claimable account ≤ (c.creditAll tradeId payouts).claimable account := by
  induction payouts generalizing c with
  | nil => exact le_rfl
  | cons payout rest ih =>
    apply Nat.le_trans _ (ih (c.credit tradeId payout))
    by_cases same : account = payout.recipient
    · simp [Custody.credit, same]
    · simp [Custody.credit, same]

/-- A move only adds to claims. -/
theorem Custody.le_perform (c : Custody) (treasury : Address) (now tradeId : Nat) (move : Move)
    (account : Address) : c.claimable account ≤ (c.perform treasury now tradeId move).claimable account :=
  (c.advance now tradeId move).le_creditAll _ _ account

/-- Every call but the two payouts leaves each claim as large as it was. -/
theorem Settling.grows {s next : World σ} {call : Call} (settling : Settling chain msg s call next)
    (ordinary : call.payout? msg s = none) (account : Address) :
    s.claimableUsdc account ≤ next.claimableUsdc account := by
  cases settling with
  | created order created =>
    exact (congrFun (congrArg Custody.claimable created.custody) account).ge
  | paid payout => simp [ordinary] at payout
  | moved _ _ advanced =>
    have claimable : next.claimableUsdc = _ := congrArg Custody.claimable advanced.custody
    rw [claimable]
    exact s.custody.le_perform _ _ _ _ account
  | @decided _ middle _ _ _ _ undecided settled =>
    have kept : middle.claimableUsdc = s.claimableUsdc := congrArg Custody.claimable undecided.custody
    rcases settled with rfl | ⟨proposalId, settled⟩
    · rw [kept]
    · have claimable : next.claimableUsdc = _ := congrArg Custody.claimable settled.custody
      rw [claimable, ← kept]
      exact middle.custody.le_perform _ _ _ _ account

private theorem execute_grows {s next : World σ} {call : Call} (ordinary : call.payout? msg s = none)
    (success : execute chain msg call s = .ok next) (account : Address) :
    s.claimableUsdc account ≤ next.claimableUsdc account := by
  cases settles : call.settles with
  | true => exact (execute_settling settles success).grows ordinary account
  | false =>
    have kept := (execute_governed settles success).settlement
    exact (congrFun (congrArg Settlement.claimableUsdc kept) account).ge

private theorem execute_discharged {s next : World σ} {call : Call}
    (pays : call.payout? msg s = some (account, receiver))
    (success : execute chain msg call s = .ok next) : Discharged chain s account receiver next := by
  cases call with
  | claim =>
    cases pays
    exact (claim_effect success).1.discharged
  | claimTreasury =>
    cases pays
    exact (claimTreasury_effect success).1.discharged
  | _ => cases pays

section Independence

variable (s : World σ) (paused : Bool) (msg : Message)

private theorem safeTransfer_repaused (target : Address) (amount : Nat) :
    safeTransfer chain target amount { s with paused := paused } =
      (safeTransfer chain target amount s).map fun next => { next with paused := paused } := by
  unfold safeTransfer
  split <;> rename_i result <;> simp [result, Except.map]

/-- The part of a payout after its checks, for either way of paying. -/
theorem payout_repaused (account receiver : Address) (total : Nat)
    (event : Parameters → Event) :
    (safeTransfer chain receiver (s.claimableUsdc account) { s with
        paused := paused
        claimableUsdc := update s.claimableUsdc account 0
        totalClaimableUsdc := total } >>= fun next => pure (next.emit [event next.toParameters])) =
      (safeTransfer chain receiver (s.claimableUsdc account) { s with
        claimableUsdc := update s.claimableUsdc account 0
        totalClaimableUsdc := total } >>= fun next => pure (next.emit [event next.toParameters])).map
      fun next => { next with paused := paused } := by
  rw [safeTransfer_repaused { s with
    claimableUsdc := update s.claimableUsdc account 0
    totalClaimableUsdc := total }, bind_map, map_bind]
  rfl

private theorem claim_repaused : claim chain msg { s with paused := paused } =
    (claim chain msg s).map fun next => { next with paused := paused } := by
  unfold claim
  simp only [map_bind]
  apply bind_congr
  intro _
  apply bind_congr
  intro _
  apply bind_congr
  intro total
  rw [← map_bind]
  exact payout_repaused s paused msg.sender msg.sender total fun _ =>
    .claimed msg.sender (s.claimableUsdc msg.sender)

private theorem claimTreasury_repaused : claimTreasury chain msg { s with paused := paused } =
    (claimTreasury chain msg s).map fun next => { next with paused := paused } := by
  unfold claimTreasury
  simp only [map_bind]
  apply bind_congr
  intro _
  apply bind_congr
  intro _
  apply bind_congr
  intro _
  apply bind_congr
  intro total
  rw [← map_bind]
  exact payout_repaused s paused s.treasuryAddress s.treasuryPayoutAddress total fun parameters =>
    .treasuryClaimed parameters.treasuryAddress s.treasuryPayoutAddress
      (s.claimableUsdc s.treasuryAddress) msg.sender

end Independence

/-- During a pause no call moves a trade or a dispute or adds to a claim. A claim
shrinks only by a payout, which empties it, spares every other entry, needs the
claims switch open and does not look at the pause. -/
theorem pause_isolation {s next : World σ} {call : Call}
    (success : execute chain msg call s = .ok next) :
    (s.paused = true → Frozen s next) ∧
      (∀ account, next.claimableUsdc account < s.claimableUsdc account →
        ∃ receiver, call.payout? msg s = some (account, receiver)) ∧
      ∀ account receiver, call.payout? msg s = some (account, receiver) →
        Discharged chain s account receiver next ∧ ∀ paused,
          execute chain msg call { s with paused := paused } = .ok { next with paused := paused } := by
  refine ⟨fun paused => ?_, fun account shrunk => ?_, fun account receiver pays => ?_⟩
  · cases settles : call.settles with
    | true => exact (execute_settling settles success).frozen paused
    | false => exact (execute_governed settles success).frozen
  · cases pays : call.payout? msg s with
    | none => exact absurd (execute_grows pays success account) (Nat.not_le.mpr shrunk)
    | some payout =>
      obtain ⟨other, receiver⟩ := payout
      have discharged := execute_discharged pays success
      by_cases same : account = other
      · exact ⟨receiver, by rw [same]⟩
      · exact absurd (discharged.others account same) shrunk.ne
  · refine ⟨execute_discharged pays success, fun paused => ?_⟩
    cases call with
    | claim =>
      have repaused : execute chain msg .claim { s with paused := paused } = _ :=
        claim_repaused s paused msg
      rw [repaused, show claim chain msg s = .ok next from success]
      rfl
    | claimTreasury =>
      have repaused : execute chain msg .claimTreasury { s with paused := paused } = _ :=
        claimTreasury_repaused s paused msg
      rw [repaused, show claimTreasury chain msg s = .ok next from success]
      rfl
    | _ => cases pays

open Mock in
/-- A supplier is paid while everything else stands still. -/
theorem pausedClaim_isolated : ∃ s next, scenario (config [admin1, admin2] 1)
    [call buyer 1 (.createTrade order), call oracle 2 (.releaseFundsStage1 0), call admin1 3 .pause] =
      some s ∧ execute mockChain ⟨supplier, 4⟩ .claim s = .ok next ∧
      Frozen s next ∧ Discharged mockChain s supplier supplier next := by
  have outcome : ((scenario (config [admin1, admin2] 1) [call buyer 1 (.createTrade order),
      call oracle 2 (.releaseFundsStage1 0), call admin1 3 .pause]).map fun s =>
        (s.paused, (execute mockChain ⟨supplier, 4⟩ .claim s).toOption.isSome)) = some (true, true) := by
    decide +kernel
  obtain ⟨s, reached, facts⟩ := Option.map_eq_some_iff.mp outcome
  simp only [Prod.mk.injEq] at facts
  obtain ⟨paused, succeeds⟩ := facts
  cases success : execute mockChain ⟨supplier, 4⟩ .claim s with
  | error revert => simp [success, Except.toOption] at succeeds
  | ok next =>
    obtain ⟨frozen, _, discharged⟩ := pause_isolation success
    exact ⟨s, next, reached, success, frozen paused, (discharged supplier supplier rfl).1⟩

end Agroasys.Escrow
