import Agroasys.Escrow.MockUSDC

namespace Agroasys.Escrow

open Function Finset Agroasys.Foundation

variable {σ Op : Type} {chain : Chain σ Op}

/-- The token is sane and the escrow's balance covers its obligations. -/
structure Backed (chain : Chain σ Op) (sound : σ → Prop) (s : World σ) : Prop where
  token : sound s.usdc
  solvent : s.custody.Solvent (chain.token.balanceOf s.usdc chain.self)

private theorem Activity.backed {s next : World σ} (standard : StandardERC20 chain sound)
    (activity : Activity chain msg s next) (backed : Backed chain sound s) :
    Backed chain sound next := by
  obtain ⟨token, solvent⟩ := backed
  cases activity with
  | quiet custody usdc =>
    constructor
    · rwa [usdc]
    · rwa [custody, usdc]
  | created order created =>
    obtain ⟨kept, moved⟩ := standard.transferFrom token created.paid
    have buyer : msg.sender ≠ chain.self := by
      intro same
      have paid := created.paid
      rw [same] at paid
      have nothing := standard.unapproved token paid
      obtain ⟨total, positive, _⟩ := created.opened.wellFormed
      simp only [Order.trade] at total positive
      omega
    refine ⟨kept, ?_⟩
    rw [created.custody]
    have step : Custody.Step s.treasuryAddress msg.timestamp s.custody ⟨order.totalAmount.toNat, 0⟩ _ :=
      .deposited _ created.opened
    exact step.solvent solvent (moved.target_eq buyer).ge
  | advanced tradeId move advanced =>
    have step : Custody.Step s.treasuryAddress msg.timestamp s.custody ⟨0, 0⟩
        (s.custody.perform s.treasuryAddress msg.timestamp tradeId move) :=
      .moved tradeId move advanced.known advanced.source
    constructor
    · rwa [advanced.usdc]
    · rw [advanced.custody, advanced.usdc]
      exact step.solvent solvent le_rfl
  | withdrawn account receiver withdrawn =>
    obtain ⟨kept, moved⟩ := standard.transfer token withdrawn.paid
    refine ⟨kept, ?_⟩
    rw [withdrawn.custody]
    have step : Custody.Step s.treasuryAddress msg.timestamp s.custody
        ⟨0, s.claimableUsdc account⟩ _ := .withdrawn account
    exact step.solvent solvent moved.source_le

private theorem Transacted.backed {s next : World σ} (standard : StandardERC20 chain sound)
    (transacted : Transacted chain s action next)
    (backed : Backed chain sound s) : Backed chain sound next := by
  cases transacted with
  | called _ _ _ _ activity => exact activity.backed standard backed
  | foreign msg op usdc _ sender called =>
    obtain ⟨kept, grown⟩ := standard.call backed.token sender called
    obtain ⟨trades, ledger, covered⟩ := backed.solvent
    exact ⟨kept, trades, ledger, covered.trans grown⟩

theorem path_backed (standard : StandardERC20 chain sound) {config : Config}
    (deployed : config.Deployed origin) (funded : sound origin.usdc)
    (path : Path (escrowSystem chain) origin history s) : Established s ∧ Backed chain sound s := by
  apply path_invariant deployed.established path
  · obtain ⟨_, _, rfl⟩ := deployed.world
    refine ⟨funded, fun tradeId known => absurd known (Nat.not_lt_zero _), ?_, Nat.zero_le _⟩
    simp [World.custody, Config.world, holdings]
  · intro s action next _ transacted backed
    exact transacted.backed standard backed

/-- Room for further claims up to `amount`. -/
structure Room (s : World σ) (amount : Nat) : Prop where
  claims : ∀ account, s.claimableUsdc account ≤ s.totalClaimableUsdc
  fits : s.totalClaimableUsdc + amount < 2 ^ 256

/-- Every trade's reserved amount can still be turned into claims. -/
def Accruable (s : World σ) : Prop := ∀ tradeId, Room s (s.trades tradeId).reserved

theorem Accruable.kept {s next : World σ} (accruable : Accruable s) (custody : next.custody = s.custody) :
    Accruable next := by
  intro tradeId
  have trades : next.trades = s.trades := congrArg Custody.trades custody
  have claims : next.claimableUsdc = s.claimableUsdc := congrArg Custody.claimable custody
  have total : next.totalClaimableUsdc = s.totalClaimableUsdc := congrArg Custody.owed custody
  obtain ⟨covered, fits⟩ := accruable tradeId
  constructor
  · rwa [claims, total]
  · rwa [total, trades]

theorem Backed.accruable {s : World σ} (standard : StandardERC20 chain sound) (unopened : s.Unopened)
    (backed : Backed chain sound s) : Accruable s := by
  intro tradeId
  obtain ⟨_, ledger, covered⟩ := backed.solvent
  have owed : s.custody.owed = s.totalClaimableUsdc := rfl
  constructor
  · intro account
    exact (le_holdings s.claimableUsdc account).trans_eq ledger.symm
  · have supply := standard.supply backed.token
    have held := le_holdings (chain.token.balanceOf s.usdc) chain.self
    have reserved : (s.trades tradeId).reserved ≤ s.custody.reserves := by
      by_cases known : tradeId < s.tradeCounter
      · have member : tradeId ∈ range s.tradeCounter := mem_range.mpr known
        exact single_le_sum (f := fun other => (s.trades other).reserved) (fun _ _ => Nat.zero_le _) member
      · rw [(unopened tradeId (Nat.le_of_not_lt known)).1]
        exact Nat.zero_le _
    omega

theorem Room.no_overflow {s : World σ} (room : Room s amount) (recipient : Address) :
    s.claimableUsdc recipient + amount < 2 ^ 256 ∧ s.totalClaimableUsdc + amount < 2 ^ 256 := by
  have claims := room.claims recipient
  have fits := room.fits
  constructor <;> omega

/-- An accrual within the room goes through and uses up its amount of it. -/
theorem accrueClaimable_ok {s : World σ} (room : Room s (amount + rest)) (tradeId : Nat)
    (recipient : Address) (claimType : ClaimType) :
    accrueClaimable tradeId recipient amount claimType s =
        .ok (credited tradeId ⟨recipient, amount, claimType⟩ s) ∧
      Room (credited tradeId ⟨recipient, amount, claimType⟩ s) rest := by
  have fits := room.fits
  have first : Room s amount := ⟨room.claims, by omega⟩
  refine ⟨accrueClaimable_eq_ok.mpr ⟨.inr (first.no_overflow recipient), rfl⟩, ?_, ?_⟩
  · intro account
    have claims := room.claims account
    by_cases same : account = recipient
    · subst same
      simp only [credited, update_self]
      omega
    · simp only [credited, update_of_ne same]
      omega
  · simp only [credited]
    omega

/-- Every revert of the action is one of `allowed`. -/
structure FailsWith (allowed : Revert → Prop) (action : Except Revert α) : Prop where
  reverts : ∀ revert, action = .error revert → allowed revert

section FailsWith

variable {allowed : Revert → Prop}

@[simp] theorem failsWith_pure {value : α} : FailsWith allowed (pure value) :=
  ⟨fun _ failed => absurd failed pure_ne_error⟩

@[simp] theorem failsWith_require {condition : Prop} [Decidable condition] :
    FailsWith allowed (require condition message) ↔ (¬ condition → allowed (.require message)) := by
  constructor
  · intro fails violated
    exact fails.reverts _ (require_eq_error.mpr ⟨violated, rfl⟩)
  · intro permitted
    constructor
    intro revert failed
    obtain ⟨violated, rfl⟩ := require_eq_error.mp failed
    exact permitted violated

@[simp] theorem failsWith_bind {action : Except Revert α} {next : α → Except Revert β} :
    FailsWith allowed (action >>= next) ↔ FailsWith allowed action ∧
      ∀ value, action = .ok value → FailsWith allowed (next value) := by
  constructor
  · intro fails
    constructor
    · constructor
      intro revert failed
      exact fails.reverts revert (bind_eq_error.mpr (.inl failed))
    · intro value success
      constructor
      intro revert failed
      exact fails.reverts revert (bind_eq_error.mpr (.inr ⟨value, success, failed⟩))
  · rintro ⟨first, rest⟩
    constructor
    intro revert failed
    rcases bind_eq_error.mp failed with failed | ⟨value, success, failed⟩
    · exact first.reverts revert failed
    · exact (rest value success).reverts revert failed

@[simp] theorem failsWith_ite {condition : Prop} [Decidable condition] {first second : Except Revert α} :
    FailsWith allowed (if condition then first else second) ↔
      (condition → FailsWith allowed first) ∧ (¬ condition → FailsWith allowed second) := by
  split <;> simp_all

theorem guard_fails {condition : Prop} [Decidable condition] {next : Unit → Except Revert α}
    (plain : ∀ message, allowed (.require message)) (passed : condition → FailsWith allowed (next ())) :
    FailsWith allowed (require condition message >>= next) := by
  rw [failsWith_bind, failsWith_require]
  constructor
  · intro _
    exact plain message
  · intro _ success
    exact passed (require_eq_ok.mp success)

end FailsWith

section Reverts

variable {allowed : Revert → Prop} {s : World σ}

/-- The calls on roles, switches and rotations revert only at a `require`. -/
theorem governance_fails (plain : ∀ message, allowed (.require message)) (governs : call.settles = false) :
    FailsWith allowed (execute chain msg call s) := by
  cases call with
  | createTrade | claim | claimTreasury | releaseFundsStage1 | confirmArrival | openDispute
  | finalizeAfterDisputeWindow | cancelLockedTradeAfterTimeout | refundInTransitAfterTimeout
  | proposeDisputeSolution | approveDisputeSolution | cancelExpiredDisputeProposal => cases governs
  | _ =>
    simp only [execute, pause, pauseClaims, unpauseClaims, proposeUnpause, approveUnpause,
      cancelUnpauseProposal, executeUnpause, pausePrimitive, unpausePrimitive, disableOracleEmergency,
      onlyAdmin, whenNotPaused, requireLive, requireExecutable, approveProposal, cancelExpiredProposal,
      proposeOracleUpdate, approveOracleUpdate, executeOracleUpdate, cancelExpiredOracleUpdateProposal,
      proposeAddAdmin, approveAddAdmin, executeAddAdmin, cancelExpiredAddAdminProposal,
      proposeTreasuryPayoutAddressUpdate, approveTreasuryPayoutAddressUpdate,
      executeTreasuryPayoutAddressUpdate, cancelExpiredTreasuryPayoutAddressUpdateProposal,
      failsWith_bind, failsWith_require, failsWith_ite, failsWith_pure, plain, implies_true, and_self]

/-- With room for it an accrual does not fail. -/
theorem accrual_fails {next : World σ → Except Revert (World σ)} (room : Room s (amount + rest))
    (later : Room (credited tradeId ⟨recipient, amount, claimType⟩ s) rest →
      FailsWith allowed (next (credited tradeId ⟨recipient, amount, claimType⟩ s))) :
    FailsWith allowed (accrueClaimable tradeId recipient amount claimType s >>= next) := by
  obtain ⟨accrued, left⟩ := accrueClaimable_ok room tradeId recipient claimType
  rw [accrued]
  exact later left

theorem lastAccrual_fails {next : World σ → Except Revert (World σ)} (room : Room s amount)
    (later : FailsWith allowed (next (credited tradeId ⟨recipient, amount, claimType⟩ s))) :
    FailsWith allowed (accrueClaimable tradeId recipient amount claimType s >>= next) :=
  have whole : Room s (amount + 0) := room
  accrual_fails whole fun _ => later

private theorem releaseFundsStage1_fails (plain : ∀ message, allowed (.require message))
    (trades : tradeId < s.tradeCounter → (s.trades tradeId).WellFormed) (accruable : Accruable s) :
    FailsWith allowed (releaseFundsStage1 msg tradeId s) := by
  refine guard_fails plain fun _ => guard_fails plain fun _ => guard_fails plain fun _ =>
    guard_fails plain fun known => guard_fails plain fun source => ?_
  have shares : (s.trades tradeId).reserved = (s.trades tradeId).supplierFirstTranche +
      ((s.trades tradeId).logisticsAmount + ((s.trades tradeId).platformFeesAmount +
        (s.trades tradeId).supplierSecondTranche)) := by
    have total := (trades known).total
    simp only [Trade.reserved, source]
    omega
  have stage := accruable tradeId
  rw [shares] at stage
  refine accrual_fails ⟨stage.claims, stage.fits⟩ fun afterTranche => ?_
  refine accrual_fails afterTranche fun afterLogistics => ?_
  exact accrual_fails afterLogistics fun _ => failsWith_pure

private theorem finalizeAfterDisputeWindow_fails (plain : ∀ message, allowed (.require message))
    (accruable : Accruable s) : FailsWith allowed (finalizeAfterDisputeWindow msg tradeId s) := by
  refine guard_fails plain fun _ => guard_fails plain fun _ => guard_fails plain fun source =>
    guard_fails plain fun _ => guard_fails plain fun _ => ?_
  have tranche := accruable tradeId
  simp only [Trade.reserved, source] at tranche
  exact lastAccrual_fails ⟨tranche.claims, tranche.fits⟩ failsWith_pure

private theorem cancelLockedTradeAfterTimeout_fails (plain : ∀ message, allowed (.require message))
    (accruable : Accruable s) : FailsWith allowed (cancelLockedTradeAfterTimeout msg tradeId s) := by
  refine guard_fails plain fun _ => guard_fails plain fun _ => guard_fails plain fun _ =>
    guard_fails plain fun source => guard_fails plain fun _ => ?_
  have locked := accruable tradeId
  simp only [Trade.reserved, source] at locked
  exact lastAccrual_fails ⟨locked.claims, locked.fits⟩ failsWith_pure

private theorem refundInTransitAfterTimeout_fails (plain : ∀ message, allowed (.require message))
    (accruable : Accruable s) : FailsWith allowed (refundInTransitAfterTimeout msg tradeId s) := by
  refine guard_fails plain fun _ => guard_fails plain fun _ => guard_fails plain fun _ =>
    guard_fails plain fun source => guard_fails plain fun _ => guard_fails plain fun _ => ?_
  have tranche := accruable tradeId
  simp only [Trade.reserved, source] at tranche
  exact lastAccrual_fails ⟨tranche.claims, tranche.fits⟩ failsWith_pure

private theorem executeDispute_fails (plain : ∀ message, allowed (.require message)) (accruable : Accruable s) :
    FailsWith allowed (executeDispute msg proposalId s) := by
  refine guard_fails plain fun _ => guard_fails plain fun _ => guard_fails plain fun _ =>
    guard_fails plain fun _ => guard_fails plain fun source => ?_
  have tranche := accruable (s.dispute.proposals proposalId).matter.tradeId
  simp only [Trade.reserved, source] at tranche
  exact lastAccrual_fails ⟨tranche.claims, tranche.fits⟩ failsWith_pure

private theorem proposeDisputeSolution_fails (plain : ∀ message, allowed (.require message))
    (accruable : Accruable s) : FailsWith allowed (proposeDisputeSolution msg tradeId decision s) := by
  refine guard_fails plain fun _ => guard_fails plain fun _ => guard_fails plain fun _ =>
    guard_fails plain fun _ => failsWith_bind.mpr ⟨?_, ?_⟩
  · simp only [vacateDisputeSlot, failsWith_ite, failsWith_bind, failsWith_require, failsWith_pure,
      plain, implies_true, and_self]
  · intro vacated success
    have vacates := (vacateDisputeSlot_effect success).undecided.custody
    have records := (recordDisputeProposal_undecided msg tradeId decision vacated).custody
    refine failsWith_ite.mpr ⟨fun _ => ?_, fun _ => failsWith_pure⟩
    exact executeDispute_fails plain ((accruable.kept vacates).kept records)

private theorem approveDisputeSolution_fails (plain : ∀ message, allowed (.require message))
    (accruable : Accruable s) : FailsWith allowed (approveDisputeSolution msg proposalId s) := by
  refine guard_fails plain fun _ => guard_fails plain fun _ => guard_fails plain fun _ =>
    guard_fails plain fun _ => guard_fails plain fun _ => guard_fails plain fun _ =>
    guard_fails plain fun _ => guard_fails plain fun _ => guard_fails plain fun _ =>
    failsWith_ite.mpr ⟨fun _ => ?_, fun _ => failsWith_pure⟩
  exact executeDispute_fails plain
    (accruable.kept (recordDisputeApproval_undecided msg proposalId s).custody)

end Reverts

/-- A revert of the claim ledger's arithmetic, or of the payout of a claim for
lack of funds. -/
def Shortfall (call : Call) : Revert → Prop
  | .panic .createTrade => False
  | .panic _ => True
  | .token .insufficientBalance | .token .overflow => call = .claim ∨ call = .claimTreasury
  | _ => False

section Payouts

variable {s : World σ} {call : Call}

private theorem createTrade_covered (creates : call ≠ .claim ∧ call ≠ .claimTreasury) :
    FailsWith (fun revert => ¬ Shortfall call revert) (createTrade chain msg order s) := by
  have plain : ∀ message, ¬ Shortfall call (.require message) := fun _ => id
  have arithmetic : ∀ first second,
      FailsWith (fun revert => ¬ Shortfall call revert) (checkedAdd .createTrade first second) := by
    intro first second
    constructor
    intro revert failed
    obtain ⟨_, rfl⟩ := checkedAdd_eq_error.mp failed
    exact id
  have signature : FailsWith (fun revert => ¬ Shortfall call revert)
      (verifySignature chain msg msg.sender order s) := by
    apply guard_fails plain
    intro _
    split
    · exact failsWith_pure
    · constructor
      intro revert failed
      cases failed
      exact id
  have deposit : ∀ amount paid, FailsWith (fun revert => ¬ Shortfall call revert)
      (safeTransferFrom chain msg.sender amount paid) := by
    intro amount paid
    constructor
    intro revert failed
    unfold safeTransferFrom at failed
    split at failed
    · cases failed
    · rename_i error _
      cases failed
      cases error <;> simp [Shortfall, creates]
  simp only [createTrade, whenNotPaused, failsWith_bind, failsWith_require, failsWith_pure, plain,
    arithmetic, signature, deposit, not_false_eq_true, implies_true, and_self]

/-- A claim within the ledger is paid out in full. -/
theorem payout_covered (standard : StandardERC20 chain sound) (token : sound s.usdc)
    (covered : amount ≤ chain.token.balanceOf s.usdc chain.self) (target : Address) :
    FailsWith (fun revert => ¬ Shortfall call revert) (safeTransfer chain target amount s) := by
  constructor
  intro revert failed
  unfold safeTransfer at failed
  split at failed
  · cases failed
  · rename_i error rejected
    cases failed
    cases error with
    | insufficientBalance =>
      have short := standard.insufficientBalance rejected
      omega
    | overflow =>
      obtain ⟨different, exceeds⟩ := standard.overflow rejected
      have supply := standard.supply token
      have together := add_le_holdings (chain.token.balanceOf s.usdc) different
      omega
    | rejected => exact id

private theorem claims_covered (backed : Backed chain sound s) (account : Address) :
    s.claimableUsdc account ≤ s.totalClaimableUsdc ∧
      s.claimableUsdc account ≤ chain.token.balanceOf s.usdc chain.self := by
  obtain ⟨_, ledger, covered⟩ := backed.solvent
  have claimable : s.claimableUsdc account ≤ s.totalClaimableUsdc :=
    (le_holdings s.claimableUsdc account).trans_eq ledger.symm
  have owed : s.custody.owed = s.totalClaimableUsdc := rfl
  constructor
  · exact claimable
  · omega

private theorem checkedSub_covered {allowed : Revert → Prop} (fits : second ≤ first) :
    FailsWith allowed (checkedSub site first second) := by
  constructor
  intro revert failed
  obtain ⟨short, _⟩ := checkedSub_eq_error.mp failed
  omega

private theorem claim_covered (standard : StandardERC20 chain sound) (backed : Backed chain sound s) :
    FailsWith (fun revert => ¬ Shortfall call revert) (claim chain msg s) := by
  obtain ⟨claimable, held⟩ := claims_covered backed msg.sender
  refine guard_fails (fun _ => id) fun _ => guard_fails (fun _ => id) fun _ => ?_
  refine failsWith_bind.mpr ⟨checkedSub_covered claimable, fun _ _ => ?_⟩
  refine failsWith_bind.mpr ⟨payout_covered standard ?_ ?_ _, fun _ _ => failsWith_pure⟩
  · exact backed.token
  · exact held

private theorem claimTreasury_covered (standard : StandardERC20 chain sound) (backed : Backed chain sound s) :
    FailsWith (fun revert => ¬ Shortfall call revert) (claimTreasury chain msg s) := by
  obtain ⟨claimable, held⟩ := claims_covered backed s.treasuryAddress
  refine guard_fails (fun _ => id) fun _ => guard_fails (fun _ => id) fun _ =>
    guard_fails (fun _ => id) fun _ => ?_
  refine failsWith_bind.mpr ⟨checkedSub_covered claimable, fun _ _ => ?_⟩
  refine failsWith_bind.mpr ⟨payout_covered standard ?_ ?_ _, fun _ _ => failsWith_pure⟩
  · exact backed.token
  · exact held

private theorem execute_covered (standard : StandardERC20 chain sound) (unopened : s.Unopened)
    (backed : Backed chain sound s) :
    FailsWith (fun revert => ¬ Shortfall call revert) (execute chain msg call s) := by
  have plain : ∀ message, ¬ Shortfall call (.require message) := fun _ => id
  have accruable := backed.accruable standard unopened
  cases call with
  | createTrade order => exact createTrade_covered ⟨nofun, nofun⟩
  | claim => exact claim_covered standard backed
  | claimTreasury => exact claimTreasury_covered standard backed
  | releaseFundsStage1 tradeId =>
    exact releaseFundsStage1_fails plain (backed.solvent.trades tradeId) accruable
  | finalizeAfterDisputeWindow tradeId => exact finalizeAfterDisputeWindow_fails plain accruable
  | cancelLockedTradeAfterTimeout tradeId => exact cancelLockedTradeAfterTimeout_fails plain accruable
  | refundInTransitAfterTimeout tradeId => exact refundInTransitAfterTimeout_fails plain accruable
  | proposeDisputeSolution tradeId decision => exact proposeDisputeSolution_fails plain accruable
  | approveDisputeSolution proposalId => exact approveDisputeSolution_fails plain accruable
  | confirmArrival | openDispute | cancelExpiredDisputeProposal =>
    simp only [execute, confirmArrival, openDispute, cancelExpiredDisputeProposal, onlyAdmin,
      onlyOracle, onlyOracleActive, whenNotPaused, failsWith_bind, failsWith_require, failsWith_pure,
      plain, not_false_eq_true, implies_true, and_self]
  | _ => exact governance_fails plain rfl

end Payouts

/-- In every state of every run the escrow's token balance covers all claims and
all amounts reserved for trades, and no call fails for lack of either. -/
theorem escrow_solvency (standard : StandardERC20 chain sound) {config : Config}
    (deployed : config.Deployed origin) (funded : sound origin.usdc)
    (path : Path (escrowSystem chain) origin history s) :
    s.totalClaimableUsdc = holdings s.claimableUsdc ∧
      s.totalClaimableUsdc + ∑ tradeId ∈ range s.tradeCounter, (s.trades tradeId).reserved ≤
        chain.token.balanceOf s.usdc chain.self ∧
      ∀ msg call revert, execute chain msg call s = .error revert → ¬ Shortfall call revert := by
  obtain ⟨established, backed⟩ := path_backed standard deployed funded path
  obtain ⟨_, ledger, covered⟩ := backed.solvent
  refine ⟨ledger, covered, ?_⟩
  intro msg call revert failed
  exact (execute_covered standard established.unopened backed).reverts revert failed

open Mock in
/-- Stage one is accrued and not yet claimed. -/
theorem accruedStage_solvent : ∃ s, scenario (config [admin1, admin2] 1)
    [call buyer 1 (.createTrade order), call oracle 2 (.releaseFundsStage1 0)] = some s ∧
      s.totalClaimableUsdc = 55 ∧ s.totalClaimableUsdc = holdings s.claimableUsdc ∧
      s.totalClaimableUsdc + ∑ tradeId ∈ range s.tradeCounter, (s.trades tradeId).reserved ≤
        mockChain.token.balanceOf s.usdc mockChain.self ∧
      ∀ msg call revert, execute mockChain msg call s = .error revert → ¬ Shortfall call revert := by
  have outcome : (scenario (config [admin1, admin2] 1) [call buyer 1 (.createTrade order),
      call oracle 2 (.releaseFundsStage1 0)]).map (fun s => s.totalClaimableUsdc) = some 55 := by
    decide +kernel
  obtain ⟨s, reached, total⟩ := Option.map_eq_some_iff.mp outcome
  obtain ⟨origin, history, deployed, funded, path⟩ := scenario_funded reached
  have solvent := escrow_solvency (MockUSDC.standard rfl) deployed funded path
  exact ⟨s, reached, total, solvent⟩

end Agroasys.Escrow
