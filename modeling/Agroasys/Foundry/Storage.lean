import Agroasys.Escrow.MockUSDC

/-! The storage of the copy of `AgroasysEscrow` that the Foundry tests run on. It
keeps a pause flag of its own and knows no treasury payout receiver. -/

namespace Agroasys.Foundry

open Agroasys.Foundation Agroasys.Escrow

/-- Roles, switches and the proposals that change them. -/
structure Governance where
  paused : Bool
  claimsPaused : Bool
  oracleActive : Bool
  oracleAddress : Address
  admins : List Address
  isAdmin : Address → Bool
  unpauseProposal : UnpauseProposal
  unpauseHasApproved : Address → Bool
  hasActiveUnpauseProposal : Bool
  oracleUpdate : OracleUpdateBook
  adminAdd : AdminAddBook

structure World (σ : Type) extends Parameters, Settlement, Governance where
  usdc : σ
  events : List Event
  now : Nat

def World.emit (s : World σ) (events : List Event) : World σ :=
  { s with events := s.events ++ events }

section Modifiers

variable {σ : Type}

def onlyAdmin (msg : Message) (s : World σ) : Except Revert Unit :=
  require (s.isAdmin msg.sender = true) "only admin"

def onlyOracle (msg : Message) (s : World σ) : Except Revert Unit :=
  require (msg.sender = s.oracleAddress) "only oracle"

def whenNotPaused (s : World σ) : Except Revert Unit :=
  require (s.paused = false) "paused"

def whenClaimsNotPaused (s : World σ) : Except Revert Unit :=
  require (s.claimsPaused = false) "claims paused"

def onlyOracleActive (s : World σ) : Except Revert Unit :=
  require (s.oracleActive = true) "oracle disabled"

end Modifiers

end Agroasys.Foundry
