import Agroasys.Foundation.Ballot
import Agroasys.Escrow.Types

/-! The storage of `AgroasysEscrow` and what surrounds it: the token contract,
the signature scheme, the chain and the message of a call. -/

namespace Agroasys.Escrow

open Agroasys.Foundation

structure DisputeMatter where
  tradeId : Nat
  disputeStatus : DisputeStatus
  deriving DecidableEq

structure OracleUpdate where
  newOracle : Address
  eta : Nat
  emergencyFastTrack : Bool
  deriving DecidableEq

structure AdminAdd where
  newAdmin : Address
  eta : Nat
  deriving DecidableEq

structure TreasuryPayoutAddressUpdate where
  newPayoutReceiver : Address
  eta : Nat
  deriving DecidableEq

abbrev DisputeBook := ProposalBook Address DisputeMatter
abbrev OracleUpdateBook := ProposalBook Address OracleUpdate
abbrev AdminAddBook := ProposalBook Address AdminAdd
abbrev TreasuryPayoutAddressUpdateBook := ProposalBook Address TreasuryPayoutAddressUpdate

structure UnpauseProposal where
  approvalCount : Nat
  executed : Bool
  createdAt : Nat
  proposer : Address
  deriving DecidableEq

instance : Inhabited UnpauseProposal := ⟨0, false, 0, .zero⟩

/-- Storage that only the constructor writes. -/
structure Parameters where
  usdcToken : Address
  treasuryAddress : Address
  requiredApprovals : Nat
  governanceTimelock : Nat

/-- Trades, their disputes and the claim ledger. -/
structure Settlement where
  trades : Nat → Trade
  tradeCounter : Nat
  nonces : Address → Nat
  inTransitSince : Nat → Nat
  dispute : DisputeBook
  tradeHasActiveDisputeProposal : Nat → Bool
  tradeActiveDisputeProposalId : Nat → Nat
  claimableUsdc : Address → Nat
  totalClaimableUsdc : Nat

/-- Roles, switches and the proposals that change them. -/
structure Governance where
  paused : Bool
  claimsPaused : Bool
  oracleActive : Bool
  oracleAddress : Address
  treasuryPayoutAddress : Address
  admins : List Address
  isAdmin : Address → Bool
  unpauseProposal : UnpauseProposal
  unpauseHasApproved : Address → Bool
  hasActiveUnpauseProposal : Bool
  oracleUpdate : OracleUpdateBook
  adminAdd : AdminAddBook
  treasuryPayoutAddressUpdate : TreasuryPayoutAddressUpdateBook

/-- The contract with the token contract's own state, the events emitted so far
(oldest first) and the timestamp of the latest block. Block timestamps are
seconds, and counters count transactions: neither comes near `2 ^ 256`, so only
amounts carry overflow checks. -/
structure World (σ : Type) extends Parameters, Settlement, Governance where
  usdc : σ
  events : List Event
  now : Nat

/-- The token contract behind `usdcToken`. The escrow calls the first two
functions; `call` is any other transaction sent to the token. No function calls
back into the escrow, so the reentrancy guard never rejects a call. -/
structure Token (σ Op : Type) where
  balanceOf : σ → Address → Nat
  transfer : σ → (sender target : Address) → Nat → Except TokenError σ
  transferFrom : σ → (spender source target : Address) → Nat → Except TokenError σ
  call : σ → Address → Op → Except TokenError σ

/-- Everything outside the contract that its functions use. -/
structure Chain (σ Op : Type) where
  token : Token σ Op
  keccak256 : Bytes → Bytes32
  /-- `ECDSA.recover`; `none` where it reverts. -/
  recover : Bytes32 → Bytes → Option Address
  chainid : Word
  /-- `address(this)`. -/
  self : Address

/-- `msg.sender` and `block.timestamp`. -/
structure Message where
  sender : Address
  timestamp : Nat
  deriving DecidableEq

namespace World

variable {σ : Type}

def emit (s : World σ) (events : List Event) : World σ :=
  { s with events := s.events ++ events }

@[simp] theorem emit_toParameters (s : World σ) (events : List Event) :
    (s.emit events).toParameters = s.toParameters := rfl
@[simp] theorem emit_toSettlement (s : World σ) (events : List Event) :
    (s.emit events).toSettlement = s.toSettlement := rfl
@[simp] theorem emit_toGovernance (s : World σ) (events : List Event) :
    (s.emit events).toGovernance = s.toGovernance := rfl
@[simp] theorem emit_usdc (s : World σ) (events : List Event) : (s.emit events).usdc = s.usdc := rfl
@[simp] theorem emit_events (s : World σ) (events : List Event) :
    (s.emit events).events = s.events ++ events := rfl

end World

/-- `2` or `requiredApprovals`, whichever is larger. -/
def Parameters.governanceApprovals (s : Parameters) : Nat :=
  if s.requiredApprovals < 2 then 2 else s.requiredApprovals

theorem Parameters.two_le_governanceApprovals (s : Parameters) : 2 ≤ s.governanceApprovals := by
  unfold governanceApprovals
  split <;> omega

section Modifiers

variable {σ : Type}

def onlyAdmin (msg : Message) (s : World σ) : Except Revert Unit :=
  require (s.isAdmin msg.sender = true) "only admin"

def onlyOracle (msg : Message) (s : World σ) : Except Revert Unit :=
  require (msg.sender = s.oracleAddress) "only oracle"

def whenClaimsNotPaused (s : World σ) : Except Revert Unit :=
  require (s.claimsPaused = false) "claims paused"

def onlyOracleActive (s : World σ) : Except Revert Unit :=
  require (s.oracleActive = true) "oracle disabled"

def whenNotPaused (s : World σ) : Except Revert Unit :=
  require (s.paused = false) "paused"

end Modifiers

end Agroasys.Escrow
