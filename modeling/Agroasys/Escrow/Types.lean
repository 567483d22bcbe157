import Mathlib.Algebra.Order.Ring.Nat
import Mathlib.Data.Fintype.EquivFin
import Mathlib.Logic.Function.Basic
import Agroasys.Foundation.Outcomes

namespace Agroasys.Escrow

/-- A `uint256` call argument. -/
abbrev Word := BitVec 256
abbrev Bytes32 := BitVec 256
abbrev Bytes := List (BitVec 8)

structure Address where
  bits : BitVec 160
  deriving DecidableEq

namespace Address

/-- `address(0)`. -/
def zero : Address := ⟨0⟩

instance : Inhabited Address := ⟨zero⟩

def equivFin : Fin (2 ^ 160) ≃ Address where
  toFun index := ⟨⟨index⟩⟩
  invFun address := address.bits.toFin
  left_inv _ := rfl
  right_inv _ := rfl

instance : Fintype Address := .ofEquiv _ equivFin

end Address

def disputeWindow : Nat := 24 * 3600
def lockTimeout : Nat := 7 * 24 * 3600
def inTransitTimeout : Nat := 14 * 24 * 3600
def disputeProposalTtl : Nat := 7 * 24 * 3600
def governanceProposalTtl : Nat := 7 * 24 * 3600

inductive TradeStatus where
  | locked
  | inTransit
  | arrivalConfirmed
  | frozen
  | closed
  deriving DecidableEq, Repr

inductive DisputeStatus where
  | refund
  | resolve
  deriving DecidableEq, Repr

inductive ClaimType where
  | stage1Supplier
  | stage1LogisticsFee
  | stage1PlatformFee
  | stage2Supplier
  | lockTimeoutBuyerRefund
  | inTransitTimeoutBuyerRefund
  | disputeRefundBuyer
  | disputeResolveSupplier
  deriving DecidableEq, Repr

structure Trade where
  tradeId : Nat
  ricardianHash : Bytes32
  status : TradeStatus
  buyerAddress : Address
  supplierAddress : Address
  totalAmountLocked : Nat
  logisticsAmount : Nat
  platformFeesAmount : Nat
  supplierFirstTranche : Nat
  supplierSecondTranche : Nat
  createdAt : Nat
  arrivalTimestamp : Nat
  deriving DecidableEq

/-- The zero value of an unwritten mapping entry. -/
instance : Inhabited Trade := ⟨0, 0, .locked, .zero, .zero, 0, 0, 0, 0, 0, 0, 0⟩

inductive Event where
  | tradeLocked (tradeId : Nat) (buyer supplier : Address)
      (totalAmount logisticsAmount platformFeesAmount supplierFirstTranche supplierSecondTranche : Nat)
      (ricardianHash : Bytes32)
  | fundsReleasedStage1 (tradeId : Nat) (supplier : Address) (supplierFirstTranche : Nat)
      (treasury : Address) (logisticsAmount : Nat)
  | platformFeesPaidStage1 (tradeId : Nat) (treasury : Address) (platformFeesAmount : Nat)
  | arrivalConfirmed (tradeId arrivalTimestamp : Nat)
  | finalTrancheReleased (tradeId : Nat) (supplier : Address) (supplierSecondTranche : Nat)
  | disputeOpenedByBuyer (tradeId : Nat)
  | disputeSolutionProposed (proposalId tradeId : Nat) (disputeStatus : DisputeStatus) (proposer : Address)
  | disputeApproved (proposalId : Nat) (approver : Address) (approvalCount requiredApprovals : Nat)
  | disputeFinalized (proposalId tradeId : Nat) (disputeStatus : DisputeStatus)
  | unpauseProposed (proposer : Address)
  | unpauseApproved (approver : Address) (approvalCount requiredApprovals : Nat)
  | unpauseProposalCancelled (cancelledBy : Address)
  | oracleUpdateProposed (proposalId : Nat) (proposer newOracle : Address) (eta : Nat)
      (emergencyFastTrack : Bool)
  | oracleUpdateApproved (proposalId : Nat) (approver : Address) (approvalCount requiredApprovals : Nat)
  | oracleUpdated (oldOracle newOracle : Address)
  | adminAddProposed (proposalId : Nat) (proposer newAdmin : Address) (eta : Nat)
  | adminAddApproved (proposalId : Nat) (approver : Address) (approvalCount requiredApprovals : Nat)
  | adminAdded (newAdmin : Address)
  | treasuryPayoutAddressUpdateProposed (proposalId : Nat) (proposer newPayoutReceiver : Address)
      (eta : Nat)
  | treasuryPayoutAddressUpdateApproved (proposalId : Nat) (approver : Address)
      (approvalCount requiredApprovals : Nat)
  | treasuryPayoutAddressUpdated (oldPayoutReceiver newPayoutReceiver : Address)
  | treasuryPayoutAddressUpdateProposalExpiredCancelled (proposalId : Nat) (cancelledBy : Address)
  | treasuryClaimed (treasuryIdentity payoutReceiver : Address) (amount : Nat) (triggeredBy : Address)
  | oracleDisabledEmergency (disabledBy previousOracle : Address)
  | tradeCancelledAfterLockTimeout (tradeId : Nat) (buyer : Address) (refundedAmount : Nat)
  | inTransitTimeoutRefunded (tradeId : Nat) (buyer : Address) (refundedAmount : Nat)
  | disputeProposalExpiredCancelled (proposalId tradeId : Nat) (cancelledBy : Address)
  | disputePayout (tradeId proposalId : Nat) (recipient : Address) (amount : Nat)
      (payoutType : DisputeStatus)
  | claimableAccrued (tradeId : Nat) (recipient : Address) (amount : Nat) (claimType : ClaimType)
  | claimed (claimant : Address) (amount : Nat)
  | claimsPaused (triggeredBy : Address)
  | claimsUnpaused (triggeredBy : Address)
  | oracleUpdateProposalExpiredCancelled (proposalId : Nat) (cancelledBy : Address)
  | adminAddProposalExpiredCancelled (proposalId : Nat) (cancelledBy : Address)
  | paused (account : Address)
  | unpaused (account : Address)
  deriving DecidableEq

/-- Why a token call reverts. -/
inductive TokenError where
  | insufficientBalance
  | overflow
  | rejected
  deriving DecidableEq, Repr

/-- The functions whose checked `uint256` arithmetic handles amounts. -/
inductive Arithmetic where
  | createTrade
  | accrueClaimable
  | claim
  | claimTreasury
  deriving DecidableEq, Repr

inductive Revert where
  | require (message : String)
  /-- `Panic(0x11)`, tagged with the function that raised it. -/
  | panic (site : Arithmetic)
  | token (error : TokenError)
  /-- `ECDSA.recover` rejects a malformed signature. -/
  | signature
  deriving DecidableEq, Repr

/-- `require(condition, message)`. -/
def require (condition : Prop) [Decidable condition] (message : String) : Except Revert Unit :=
  if condition then .ok () else .error (.require message)

def checkedAdd (site : Arithmetic) (first second : Nat) : Except Revert Nat :=
  if first + second < 2 ^ 256 then .ok (first + second) else .error (.panic site)

def checkedSub (site : Arithmetic) (first second : Nat) : Except Revert Nat :=
  if second ≤ first then .ok (first - second) else .error (.panic site)

@[simp] theorem pure_eq_ok {value result : α} :
    (pure value : Except Revert α) = .ok result ↔ value = result := by
  simp [pure, Except.pure]

@[simp] theorem pure_ne_error {value : α} : (pure value : Except Revert α) ≠ .error revert := by
  simp [pure, Except.pure]

@[simp] theorem require_eq_ok {condition : Prop} [Decidable condition] :
    require condition message = .ok result ↔ condition := by
  unfold require
  split <;> simp_all

@[simp] theorem require_eq_error {condition : Prop} [Decidable condition] :
    require condition message = .error revert ↔ ¬ condition ∧ revert = .require message := by
  unfold require
  split <;> simp_all [eq_comm]

@[simp] theorem checkedAdd_eq_ok :
    checkedAdd site first second = .ok result ↔ first + second < 2 ^ 256 ∧ result = first + second := by
  unfold checkedAdd
  split <;> simp_all [eq_comm]

@[simp] theorem checkedAdd_eq_error :
    checkedAdd site first second = .error revert ↔ 2 ^ 256 ≤ first + second ∧ revert = .panic site := by
  unfold checkedAdd
  split <;> simp_all [eq_comm]

@[simp] theorem checkedSub_eq_ok :
    checkedSub site first second = .ok result ↔ second ≤ first ∧ result = first - second := by
  unfold checkedSub
  split <;> simp_all [eq_comm]

@[simp] theorem checkedSub_eq_error :
    checkedSub site first second = .error revert ↔ first < second ∧ revert = .panic site := by
  unfold checkedSub
  split <;> simp_all [eq_comm]

/-- An action does not end in one of these reverts. -/
def Spares (reverts : List Revert) (action : Except Revert α) : Prop :=
  ∀ revert ∈ reverts, action ≠ .error revert

section Spares

variable {α β : Type} {reverts : List Revert} {action : Except Revert α} {next : Unit → Except Revert β}

theorem spares_pure (value : α) : Spares reverts (pure value) :=
  fun _ _ => pure_ne_error

theorem Spares.bind {rest : α → Except Revert β} (first : Spares reverts action)
    (others : ∀ value, Spares reverts (rest value)) : Spares reverts (action >>= rest) := by
  intro revert listed failed
  rcases bind_eq_error.mp failed with failed | ⟨value, _, failed⟩
  · exact first revert listed failed
  · exact others value revert listed failed

theorem spares_other {condition : Prop} [Decidable condition] (other : .require message ∉ reverts) :
    Spares reverts (require condition message) := by
  intro revert listed failed
  obtain ⟨_, rfl⟩ := require_eq_error.mp failed
  exact other listed

/-- A check that passes. -/
theorem spares_passed {condition : Prop} [Decidable condition] (holds : condition) :
    Spares reverts (require condition message >>= next) ↔ Spares reverts (next ()) := by
  rw [require, if_pos holds]
  exact Iff.rfl

/-- A check whose revert is listed. -/
theorem spares_require {condition : Prop} [Decidable condition] (listed : .require message ∈ reverts) :
    Spares reverts (require condition message >>= next) ↔ condition ∧ Spares reverts (next ()) := by
  by_cases holds : condition
  · rw [spares_passed holds, and_iff_right holds]
  · constructor
    · intro spares
      rw [require, if_neg holds] at spares
      exact absurd rfl (spares _ listed)
    · exact fun both => absurd both.1 holds

theorem spares_checkedAdd {rest : Nat → Except Revert β} (listed : .panic site ∈ reverts) :
    Spares reverts (checkedAdd site first second >>= rest) ↔
      first + second < 2 ^ 256 ∧ Spares reverts (rest (first + second)) := by
  by_cases fits : first + second < 2 ^ 256
  · rw [checkedAdd, if_pos fits, and_iff_right fits]
    exact Iff.rfl
  · constructor
    · intro spares
      rw [checkedAdd, if_neg fits] at spares
      exact absurd rfl (spares _ listed)
    · exact fun both => absurd both.1 fits

end Spares

end Agroasys.Escrow
